import DocOptions.Naming.Camel
import DocOptions.Naming.Delimited

/-! Names on the wire, derived from declared names. -/

namespace DocOptions.Naming

/-- The name of a declared thing in a format, unless an explicit name is given. A format that is not
known counts as `lowerCamel`. -/
def wireName (explicit declared format : String) : String :=
  if explicit.isEmpty then
    match format with
    | "kebab" => Style.kebab.apply declared
    | "screamingKebab" => Style.screamingKebab.apply declared
    | "snake" => Style.snake.apply declared
    | "screamingSnake" => Style.screamingSnake.apply declared
    | _ => lowerCamel declared
  else explicit

end DocOptions.Naming
