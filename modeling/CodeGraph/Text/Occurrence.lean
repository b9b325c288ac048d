/-! # Occurrences

Finding, replacing and splitting at parts of a text.
-/

namespace CodeGraph.Text

/-- Whether `part` stands somewhere in the text. -/
def occurs (part : List Char) : List Char → Bool
  | [] => part.isEmpty
  | c :: cs => part.isPrefixOf (c :: cs) || occurs part cs

def holds (text part : String) : Bool := occurs part.toList text.toList

private def replaceFrom (part replacement : List Char) : Nat → List Char → List Char
  | _, [] => []
  | n + 1, _ :: cs => replaceFrom part replacement n cs
  | 0, c :: cs =>
    if part.isPrefixOf (c :: cs) then
      replacement ++ replaceFrom part replacement (part.length - 1) cs
    else c :: replaceFrom part replacement 0 cs

/-- The text with the occurrences of a part that is not empty replaced, from left to right. -/
def replaceAll (part replacement text : List Char) : List Char :=
  replaceFrom part replacement 0 text

@[simp]
theorem replaceAll_nil (part replacement : List Char) : replaceAll part replacement [] = [] := rfl

private theorem replaceFrom_append (part replacement skipped text : List Char) :
    replaceFrom part replacement skipped.length (skipped ++ text) =
      replaceAll part replacement text := by
  induction skipped with
  | nil => rfl
  | cons c cs ih => exact ih

/-- An occurrence at the start of the text is replaced, and the replacing goes on behind it. -/
theorem replaceAll_append {part : List Char} (hPart : part ≠ []) (replacement text : List Char) :
    replaceAll part replacement (part ++ text) =
      replacement ++ replaceAll part replacement text := by
  cases part with
  | nil => exact absurd rfl hPart
  | cons c cs =>
    have hPrefix : (c :: cs).isPrefixOf (c :: (cs ++ text)) = true :=
      List.isPrefixOf_iff_prefix.2 ⟨text, rfl⟩
    rw [List.cons_append, replaceAll, replaceFrom, if_pos hPrefix]
    exact congrArg (replacement ++ ·) (replaceFrom_append (c :: cs) replacement cs text)

/-- What no occurrence starts with is kept. -/
theorem replaceAll_cons {part text : List Char} {c : Char} (hNot : ¬part <+: c :: text)
    (replacement : List Char) :
    replaceAll part replacement (c :: text) = c :: replaceAll part replacement text := by
  rw [replaceAll, replaceFrom, if_neg (mt List.isPrefixOf_iff_prefix.1 hNot)]
  rfl

def split (separator : Char) : List Char → List (List Char)
  | [] => [[]]
  | c :: cs =>
    if c = separator then [] :: split separator cs
    else
      match split separator cs with
      | [] => [[c]]
      | part :: parts => (c :: part) :: parts

end CodeGraph.Text
