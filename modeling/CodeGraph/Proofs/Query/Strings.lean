import CodeGraph.Proofs.Cache.NormalForm
import CodeGraph.Proofs.Query.Exchange
import CodeGraph.Proofs.Query.Parameters

/-!
# Strings as literals

Every text can be written between quotes, with a backslash before each backslash and each such quote
in it (`quoted`).  It is read back as it was, line breaks and the other quote included, and both
readers of texts, the one that finds tokens and the one that makes normal forms, pass over it to the
same end.  So it may stand wherever a parameter may that has the text as its value
(`quoted_literal`).
-/

namespace CodeGraph.Query

open NormalForm (isQuote inside outside)
open Unicode (isBlank)

/-! ### Reading what is between the quotes -/

def escape (quote c : Char) : List Char := if c == '\\' || c == quote then ['\\', c] else [c]

def quoted (quote : Char) (s : String) : String :=
  String.ofList (quote :: (s.toList.flatMap (escape quote) ++ [quote]))

variable {quote : Char}

theorem escape_cases (quote c : Char) :
    escape quote c = ['\\', c] ∧ (c = '\\' ∨ c = quote) ∨
      escape quote c = [c] ∧ c ≠ '\\' ∧ c ≠ quote := by
  by_cases hc : (c == '\\' || c == quote) = true
  · exact Or.inl ⟨if_pos hc, by simpa using hc⟩
  · exact Or.inr ⟨if_neg hc, by simpa using hc⟩

theorem isQuote_cases (h : isQuote quote = true) : quote = '\'' ∨ quote = '"' := by
  simpa [isQuote] using h

theorem unescape_eq_self {c : Char} (h : isQuote quote = true) (hc : c = '\\' ∨ c = quote) :
    unescape c = c := by
  rcases hc with rfl | rfl
  · rfl
  · rcases isQuote_cases h with rfl | rfl <;> rfl

theorem readString_escape (hQuote : isQuote quote = true) (c : Char) (rest : List Char) :
    readString quote (escape quote c ++ rest) =
      (readString quote rest).map fun (text, n) => (c :: text, n + (escape quote c).length) := by
  rcases escape_cases quote c with ⟨hEscape, hc⟩ | ⟨hEscape, hBackslash, hc⟩
  · rw [hEscape]
    show readString quote ('\\' :: c :: rest) = _
    rw [readString, unescape_eq_self hQuote hc]
    rfl
  · rw [hEscape]
    show readString quote (c :: rest) = _
    rw [readString_cons hBackslash, if_neg (by simpa using hc)]
    rfl

/-- **What is between the quotes is the text.** -/
theorem readString_escaped (hQuote : isQuote quote = true) (cs rest : List Char) :
    readString quote (cs.flatMap (escape quote) ++ quote :: rest) =
      some (cs, (cs.flatMap (escape quote)).length + 1) := by
  induction cs with
  | nil =>
    show readString quote (quote :: rest) = _
    rw [readString_cons (NormalForm.quote_ne_backslash hQuote), if_pos (beq_self_eq_true quote)]
    rfl
  | cons c cs ih =>
    rw [List.flatMap_cons, List.append_assoc, readString_escape hQuote, ih, List.length_append]
    simp only [Option.map_some, Option.some.injEq, Prod.mk.injEq, true_and]
    omega

theorem inside_escape (c : Char) (rest : List Char) :
    inside quote (escape quote c ++ rest) = escape quote c ++ inside quote rest := by
  rcases escape_cases quote c with ⟨hEscape, -⟩ | ⟨hEscape, hBackslash, hc⟩
  · rw [hEscape]
    show inside quote ('\\' :: c :: rest) = _
    rw [inside]
    rfl
  · rw [hEscape]
    show inside quote (c :: rest) = _
    rw [NormalForm.inside_cons hBackslash, if_neg (by simpa using hc)]
    rfl

/-- Normal forms leave what is between the quotes alone, and find the same end. -/
theorem inside_escaped (hQuote : isQuote quote = true) (cs rest : List Char) :
    inside quote (cs.flatMap (escape quote) ++ quote :: rest) =
      cs.flatMap (escape quote) ++ quote :: outside false rest := by
  induction cs with
  | nil =>
    show inside quote (quote :: rest) = _
    rw [NormalForm.inside_cons (NormalForm.quote_ne_backslash hQuote),
      if_pos (beq_self_eq_true quote)]
    rfl
  | cons c cs ih =>
    rw [List.flatMap_cons, List.append_assoc, List.append_assoc, inside_escape, ih]

/-! ### Literals in texts -/

theorem isBlank_quote (h : isQuote quote = true) : isBlank quote = false := by
  rcases isQuote_cases h with rfl | rfl <;> rfl

theorem toList_quoted (quote : Char) (s : String) :
    (quoted quote s).toList = quote :: (s.toList.flatMap (escape quote) ++ [quote]) :=
  String.toList_ofList

theorem readToken_quoted (hQuote : isQuote quote = true) (s : String) (rest : List Char) :
    readToken quote (s.toList.flatMap (escape quote) ++ quote :: rest) =
      .ok (.str s, (s.toList.flatMap (escape quote)).length + 1) := by
  rw [readToken_quote (NormalForm.isQuote_eq quote ▸ hQuote), readString_escaped hQuote]
  simp

theorem tokenize_quoted (hQuote : isQuote quote = true) (s : String) :
    tokenize (quoted quote s) = .ok [⟨.str s, 0, (quoted quote s).toList⟩] := by
  have hLength : (s.toList.flatMap (escape quote)).length + 1 =
      (s.toList.flatMap (escape quote) ++ [quote]).length := by simp
  rw [tokenize, toList_quoted, scan, if_neg (by simp [isBlank_quote hQuote]),
    readToken_quoted hQuote]
  dsimp only
  rw [hLength, List.take_length, List.drop_length, scan]

theorem tokens_quoted (hQuote : isQuote quote = true) (s : String) (rest : List Char) :
    tokens ((quoted quote s).toList ++ rest) = (tokens rest).map ([.str s] ++ ·) := by
  have hText : (quoted quote s).toList ++ rest =
      quote :: (s.toList.flatMap (escape quote) ++ quote :: rest) := by
    simp [toList_quoted]
  rw [hText, tokens_cons (isBlank_quote hQuote) (readToken_quoted hQuote s rest)]
  rw [List.append_cons, List.drop_left' (by simp)]
  rfl

theorem ofText_quoted (hQuote : isQuote quote = true) (s : String) :
    NormalForm.ofText (quoted quote s) = quoted quote s := by
  have hTrim : Unicode.trim (quoted quote s).toList = (quoted quote s).toList := by
    refine NormalForm.trim_eq_self ?_ ?_ <;> rw [toList_quoted]
    · rintro _ ⟨⟩
      exact isBlank_quote hQuote
    · rw [← List.cons_append, List.getLast?_concat]
      rintro _ ⟨⟩
      exact isBlank_quote hQuote
  refine String.toList_inj.1 ?_
  rw [NormalForm.toList_ofText, NormalForm.ofChars, hTrim, toList_quoted,
    NormalForm.outside_cons (isBlank_quote hQuote), NormalForm.after, if_pos hQuote,
    inside_escaped hQuote]
  rfl

/-! ### Literals in place of parameters -/

theorem standsFor_string {params : Params} {name s : String}
    (hFind : params.find? name = some (.string s)) :
    Grammar.StandsFor params.contains (SameValue params) (.str s) [.param name] where
  token := rfl
  value := by
    refine ⟨_, .param (by rw [Fields.contains_eq_isSome, hFind]; rfl), ?_⟩
    rintro _ ⟨⟩
    exact (resolve_parameter hFind).symm

/-- **Every text survives as a literal.**  The literal of a text is one token, which holds the text,
and is its own normal form.  Wherever a parameter with the text as its value gives a plan, the
literal in its place gives the same, and gives none where the parameter does not. -/
theorem quoted_literal (quote : Char) (hQuote : quote = '\'' ∨ quote = '"') (s : String) :
    tokenize (quoted quote s) = .ok [⟨.str s, 0, (quoted quote s).toList⟩] ∧
      NormalForm.ofText (quoted quote s) = quoted quote s ∧
      ∀ (slot : Slot) (a b : Params), b.find? slot.name = some (.string s) →
        SameIn (slot.withLiteral (quoted quote s)) a b →
        (parse (slot.withLiteral (quoted quote s)) a).toOption =
          (parse slot.withParameter b).toOption := by
  have hIs : isQuote quote = true := by simpa [isQuote] using hQuote
  refine ⟨tokenize_quoted hIs s, ofText_quoted hIs s, fun slot a b hFind hSame => ?_⟩
  obtain ⟨pre, hPre⟩ := Option.isSome_iff_exists.1 slot.whole
  have hJoins : Joins slot.before.toList ((quoted quote s).toList ++ slot.after.toList) := by
    rw [toList_quoted]
    exact joins_cons (Or.inr (Or.inr hQuote)) _ _
  have hLiteral := slot.tokens_withLiteral hPre hJoins (tokens_quoted hIs s _)
  have hParameter := slot.tokens_withParameter hPre
  rw [parse_eq_parse hSame]
  refine (agree_of_ok_iff fun plan => ?_).toOption_eq
  cases hPost : tokens slot.after.toList with
  | none =>
    -- with a rest that has no tokens neither text has any
    rw [hPost] at hLiteral hParameter
    rw [parse_eq_ok_iff_tokens, parse_eq_ok_iff_tokens, hLiteral, hParameter]
    simp
  | some post =>
    rw [hPost] at hLiteral hParameter
    exact ⟨parse_exchange (standsFor_string hFind) hLiteral hParameter,
      parse_exchange (standsFor_parameter hFind (.str s)) hParameter hLiteral⟩

def nameSlot : Slot := .atEnd "MATCH (n) WHERE n.name = " (by decide +kernel)

def awkward : String := "it's \\n\n\"\\"

theorem quoted_literal_awkward :
    tokenize (quoted '\'' awkward) = .ok [⟨.str awkward, 0, (quoted '\'' awkward).toList⟩] ∧
      (parse (nameSlot.withLiteral (quoted '\'' awkward)) ∅).toOption =
        (parse nameSlot.withParameter (given (.string awkward))).toOption ∧
      (parse nameSlot.withParameter (given (.string awkward))).toOption.isSome = true := by
  obtain ⟨hToken, -, hSlots⟩ := quoted_literal '\'' (Or.inl rfl) awkward
  refine ⟨hToken, hSlots nameSlot ∅ (given (.string awkward)) (find?_given _) ?_,
    by decide +kernel⟩
  have hTokens : tokens (nameSlot.withLiteral (quoted '\'' awkward)).toList =
      some [.ident "MATCH", .leftParen, .ident "n", .rightParen, .ident "WHERE", .ident "n", .dot,
        .ident "name", .eq, .str awkward] := by decide +kernel
  rintro _ hLexemes name hName
  obtain ⟨lexemes, hScan, hKinds⟩ := tokens_eq_some_iff.1 hTokens
  obtain rfl := Except.ok.inj (hScan.symm.trans hLexemes)
  rw [Parser.kinds, hKinds] at hName
  simp at hName

end CodeGraph.Query
