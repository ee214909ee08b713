import ViewModel.Xml.Scan

/-!
# The document's declaration

The declaration that may open a document gives a version, then optionally an encoding, then optionally
whether the document stands alone. The text is decoded before it is read, so the encoding only has to be
well formed.
-/

namespace ViewModel.Xml.Prolog

/-- One of the declaration's parts: its name and value, each with the characters from it on. -/
structure Part where
  name : String
  nameAt : List Char
  value : String
  valueAt : List Char

/-- A value of letters, digits, points, hyphens and low lines, up to its quote. -/
def scanPartValue (quote : Char) : List Char → Except (List Char) (List Char × List Char)
  | [] => .error []
  | c :: rest =>
    if c = quote then .ok ([], rest)
    else if c.isAlphanum || c == '.' || c == '-' || c == '_' then do
      let (value, after) ← scanPartValue quote rest
      return (c :: value, after)
    else .error (c :: rest)

/-- The next part, or none at the end. What cannot be read is told by the characters from it on. -/
def scanPart (ahead : List Char) : Except (List Char) (Option (Part × List Char)) :=
  match ahead with
  | [] => .ok none
  | c :: _ =>
    if !isSeparator c then .error ahead
    else
      let nameAt := ahead.dropWhile isSeparator
      if nameAt.isEmpty then .ok none
      else
        let inName (c : Char) : Bool := c != '=' && !isSeparator c && c.toNat < 128
        let name := nameAt.takeWhile inName
        let afterName := nameAt.dropWhile inName
        let sign :=
          match afterName with
          | c :: _ => if isSeparator c then afterName.dropWhile isSeparator else afterName
          | [] => []
        match sign with
        | '=' :: rest =>
          if name.isEmpty then .error sign
          else
            match rest.dropWhile isSeparator with
            | quote :: valueAt =>
              if quote == '"' || quote == '\'' then do
                let (value, after) ← scanPartValue quote valueAt
                return some (⟨String.ofList name, nameAt, String.ofList value, valueAt⟩, after)
              else .error (quote :: valueAt)
            | [] => .error []
        | _ => .error sign

/-- Whether the document stands alone, from the last part of its declaration. -/
def standaloneOf (part : Part) (rest : List Char) : Except (List Char) Bool :=
  if part.name != "standalone" then .error part.nameAt
  else if part.value != "yes" && part.value != "no" then .error part.valueAt
  else
    match rest.dropWhile isSeparator with
    | [] => .ok (part.value == "yes")
    | extra => .error extra

def readStandalone (body : List Char) : Except (List Char) Bool := do
  match ← scanPart body with
  | none => .error body
  | some (version, rest) =>
    if version.name != "version" then .error version.nameAt
    else
      match ← scanPart rest with
      | none => return false
      | some (part, rest) =>
        if part.name != "encoding" then standaloneOf part rest
        else if !((part.value.toList.head?.map Char.isAlpha).getD false) then .error part.valueAt
        else
          match ← scanPart rest with
          | none => return false
          | some (part, rest) => standaloneOf part rest

end ViewModel.Xml.Prolog
