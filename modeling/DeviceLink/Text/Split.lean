/-!
# Splitting text

Text is split at characters with a property.  Those characters are dropped.
-/

namespace DeviceLink.Text

def splitFirst (p : Char → Bool) (cs : List Char) : List Char × Option (List Char) :=
  match cs.span (fun c => !p c) with
  | (before, []) => (before, none)
  | (before, _ :: after) => (before, some after)

def splitLast (p : Char → Bool) (cs : List Char) : Option (List Char × List Char) :=
  match splitFirst p cs.reverse with
  | (_, none) => none
  | (after, some before) => some (before.reverse, after.reverse)

def splitAll (p : Char → Bool) : List Char → List (List Char)
  | [] => [[]]
  | c :: rest =>
    if p c then [] :: splitAll p rest
    else
      match splitAll p rest with
      | [] => [[c]]
      | part :: parts => (c :: part) :: parts

end DeviceLink.Text
