import Stencil.Text.Letter

/-!
# Names of render functions

A template named `html.userDetail` is rendered by the function `render_user_detail` in the
module `html`. The last component of a template's name becomes the name of the function, the
others become modules, and each of them is written in snake case.
-/

set_option autoImplicit false

namespace Stencil

/-- Whether a new word starts at an upper-case letter, by the characters around it: behind a
lower-case letter or a digit, and at the last of several upper-case letters that lead on to a
lower-case one. -/
def startsWord (previous? next? : Option Char) : Bool :=
  match previous? with
  | none => false
  | some p => Text.isLower p || p.isDigit || (Text.isUpper p && next?.any Text.isLower)

/-- The text in snake case, by the character before it and the last character written. -/
def snakeFrom (previous? last? : Option Char) : Text → Text
  | [] => []
  | c :: t =>
    if Text.isUpper c then
      let gap := if startsWord previous? t.head? && last? != some '_' then ['_'] else []
      gap ++ Text.lower c ++ snakeFrom (some c) (Text.lower c).getLast? t
    else if Text.isAlphanumeric c || c == '_' then c :: snakeFrom (some c) (some c) t
    else '_' :: snakeFrom (some c) (some '_') t

/-- The text in snake case. -/
def snakeCase (t : Text) : Text :=
  snakeFrom none none t

/-- The name of the function that renders a template, from the last component of its name. -/
def functionName (template : Text) : Text :=
  "render_" ++ snakeCase ((template.splitBack '.').head?.getD template)

/-- The path of the function that renders a template: what is before the last point of its name
becomes modules. -/
def functionPath (template : Text) : Text :=
  match template.cutLast? '.' with
  | some (modules, name) =>
    (modules.splitOn '.').flatMap (fun m => snakeCase m ++ "::".toList) ++ functionName name
  | none => functionName template

end Stencil
