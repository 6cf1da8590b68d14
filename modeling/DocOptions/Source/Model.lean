import DocOptions.Comment

/-! The declarations of a source module: interfaces, their methods, and the parameters and results
of these, each with the comments above it. -/

namespace DocOptions

/-- A parameter or a result. -/
structure Variable where
  name : String
  typeName : String
  isContext : Bool
  isError : Bool
  comments : List RawComment
  deriving DecidableEq

structure Method where
  name : String
  position : Option Position
  comments : List RawComment
  params : List Variable
  results : List Variable
  deriving DecidableEq

structure Interface where
  name : String
  position : Option Position
  comments : List RawComment
  methods : List Method
  deriving DecidableEq

structure SourceModule where
  interfaces : List Interface
  deriving DecidableEq

end DocOptions
