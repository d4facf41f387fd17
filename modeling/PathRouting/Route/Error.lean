import PathRouting.Regex.Error
import PathRouting.Template.Parser
import PathRouting.Settings.Fault

/-!
# Why a route is refused

Routes are checked when they are registered, so all of these are errors of configuration.
-/

namespace PathRouting

/-- What is behind a refusal. -/
inductive Reason where
  /-- The text of a template. -/
  | template (e : Template.ParseError)
  /-- The text of an expression. -/
  | expression (e : Regex.Error)
  /-- The shape of a definition. -/
  | definition (e : Settings.Fault)
  /-- Something that is told in words. -/
  | words (text : String)
deriving DecidableEq

/-- A reason in words. -/
def Reason.message : Reason → String
  | template e => e.message
  | expression e => e.message
  | definition e => e.message
  | words text => text

/-- Why a route is refused. -/
inductive RouteError where
  /-- A parameter has a default in its placeholder and another one in the route. -/
  | defaultConflict (parameter : Text)
  /-- The template cannot be read, or the expression made of it cannot. -/
  | invalidTemplate (template : Text) (reason : Reason)
  /-- The constraint on a parameter is no expression. -/
  | invalidConstraint (parameter : Text) (reason : Reason)
  /-- Two placeholders have the same name. -/
  | duplicateParameter (parameter : Text)
  /-- Two placeholders have no text between them. -/
  | adjacentPlaceholders (first second : Text)
  /-- Another route has the same name. -/
  | duplicateName (name : Text)
  /-- What was given is no template and no definition of a route. -/
  | invalidRoute (reason : Reason)
deriving DecidableEq

/-- An error in words, with given words for the reason behind it. -/
def RouteError.messageWith (describe : Reason → String) : RouteError → String
  | defaultConflict parameter =>
    let parameter := String.ofList parameter
    s!"The route parameter \"{parameter}\" has both an inline default value and an explicit "
      ++ "default value specified. A route parameter cannot contain an inline default value when "
      ++ "a default value is specified explicitly."
  | invalidTemplate template reason =>
    let template := String.ofList template
    s!"Invalid route template \"{template}\": {describe reason}"
  | invalidConstraint parameter reason =>
    let parameter := String.ofList parameter
    s!"Invalid constraint for route parameter \"{parameter}\": {describe reason}"
  | duplicateParameter parameter =>
    let parameter := String.ofList parameter
    s!"The route parameter \"{parameter}\" appears more than once"
  | adjacentPlaceholders first second =>
    let first := String.ofList first
    let second := String.ofList second
    s!"The route parameters \"{first}\" and \"{second}\" must be separated by literal text"
  | duplicateName name =>
    let name := String.ofList name
    s!"A route named \"{name}\" is already registered"
  | invalidRoute reason =>
    s!"A route template or route definition is expected: {describe reason}"

/-- An error in words. -/
def RouteError.message (e : RouteError) : String :=
  e.messageWith Reason.message

end PathRouting
