import FlowCheck.Console.Picture.Names
import FlowCheck.Console.Picture.People
import FlowCheck.Text.Blank
import FlowCheck.Text.Fold

/-!
# Pictures by name

A name between colons, with no blank in it, is replaced by the picture of that name. The name may
end in a wish for the plain or the coloured form of the picture. Other names stay as they are.
-/

namespace FlowCheck.Console.Picture

/-- The endings of a name that ask for a form of the picture, with the mark for the form. -/
def forms : List (String × Char) :=
  [("-text", '\ufe0e'), ("-emoji", '\ufe0f')]

/-- A name without its wish for a form, and the mark for the form. -/
def splitForm (name : String) : String × List Char :=
  match forms.findSome? fun form =>
      (form.1.toList.isSuffixOf? name.toList).map fun base => (base, form.2) with
  | some (base, mark) => (String.ofList base, [mark])
  | none => (name, [])

/-- A picture of people with the mark for a tone behind its first character. The mark takes the
place of the mark for the coloured form. -/
def toned (mark : Char) : List Char → List Char
  | first :: '\ufe0f' :: rest => first :: mark :: rest
  | first :: rest => first :: mark :: rest
  | [] => []

/-- The picture of people with a tone that the name states. -/
def ofTonedName? (name : String) : Option (List Char) :=
  tones.findSome? fun tone => do
    let base ← tone.1.toList.isSuffixOf? name.toList
    let picture ← people.lookup (String.ofList base)
    return toned tone.2 picture.toList

/-- The picture with a name in small letters. -/
def ofLowerName? (name : String) : Option (List Char) :=
  (((named ++ people).lookup name).map String.toList).or (ofTonedName? name)

/-- The picture with a name, in any case of its letters. -/
def ofName? (name : String) : Option (List Char) :=
  let (base, mark) := splitForm name
  (ofLowerName? (Text.lower base)).map (· ++ mark)

/-- A character of a name. -/
def inName (c : Char) : Bool :=
  c ≠ ':' && !Text.isBlank c

/-- The text with pictures in place of their names. -/
def replaceAll (text : List Char) : List Char :=
  match text with
  | [] => []
  | c :: rest =>
    if c = ':' then
      match _ : rest.dropWhile inName with
      | ':' :: tail =>
        let name := rest.takeWhile inName
        ((ofName? (String.ofList name)).getD (':' :: name ++ [':'])) ++ replaceAll tail
      | _ => ':' :: replaceAll rest
    else c :: replaceAll rest
termination_by text.length
decreasing_by
  · next h =>
    have le := (List.dropWhile_suffix (l := rest) inName).length_le
    simp only [h, List.length_cons] at le
    simp only [List.length_cons]
    omega
  · simp
  · simp

end FlowCheck.Console.Picture
