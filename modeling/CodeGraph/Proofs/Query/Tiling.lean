import Mathlib.Data.String.Basic
import CodeGraph.Proofs.Query.Indexing

/-!
# Tokens tile the text

The spans of the tokens of a text lie one behind the other, at the boundaries of characters, and
what is before, between and behind them is blank: `Tiled` says so along the text, one token after
the other (`tiled_of_scan`), and `Tiling` says it of the whole text.  A text without tokens offends
at the first place that is neither blank nor in a token, and this is the place that the error names
(`Stuck`).  `tokenize_tiles` puts the two together.
-/

namespace CodeGraph.Query

open Unicode (isBlank)

variable {c : Char} {cs gap rest before after : List Char} {offset : Nat} {e : ParseError}
variable {l : Lexeme} {lexemes : List Lexeme} {text : String}

/-! ### Places -/

theorem byteWidth_eq (cs : List Char) : byteWidth cs = (String.ofList cs).utf8ByteSize := by
  rw [String.utf8ByteSize_ofList]
  induction cs with
  | nil => rfl
  | cons c cs ih => rw [byteWidth, ih, String.utf8Len_cons, Nat.add_comm]

theorem isValid_byteWidth (h : text.toList = before ++ after) :
    (String.Pos.Raw.mk (byteWidth before)).IsValid text := by
  refine String.Pos.Raw.isValid_iff_exists_append.2
    ⟨String.ofList before, String.ofList after, ?_, ?_⟩
  · rw [← String.ofList_append, ← h, String.ofList_toList]
  · rw [byteWidth_eq]
    rfl

theorem byteWidth_pos (c : Char) (cs : List Char) : 0 < byteWidth (c :: cs) :=
  Nat.add_pos_left c.utf8Size_pos _

def Lexeme.Spans (l : Lexeme) (byte : Nat) : Prop :=
  l.offset ≤ byte ∧ byte < l.offset + byteWidth l.source

def Blank (cs : List Char) : Prop := ∀ c ∈ cs, isBlank c = true

/-! ### Along the text -/

/-- From an offset on, the characters are lexemes with blanks before, between and behind them. -/
inductive Tiled : Nat → List Char → List Lexeme → Prop
  | blank {offset : Nat} {gap : List Char} (hGap : Blank gap) : Tiled offset gap []
  | lexeme {offset : Nat} {gap rest : List Char} {l : Lexeme} {lexemes : List Lexeme}
      (hGap : Blank gap) (hOffset : l.offset = offset + byteWidth gap)
      (hOwn : scan 0 l.source = .ok [{ l with offset := 0 }])
      (hRest : Tiled (l.offset + byteWidth l.source) rest lexemes) :
      Tiled offset (gap ++ (l.source ++ rest)) (l :: lexemes)

theorem blank_nil : Blank [] := fun _ hc => (List.not_mem_nil hc).elim

theorem Tiled.cons_blank (h : Tiled (offset + c.utf8Size) cs lexemes) (hc : isBlank c = true) :
    Tiled offset (c :: cs) lexemes := by
  cases h with
  | blank hGap => exact .blank (List.forall_mem_cons.2 ⟨hc, hGap⟩)
  | @lexeme _ gap rest l lexemes hGap hOffset hOwn hRest =>
    have hMore : Blank (c :: gap) := List.forall_mem_cons.2 ⟨hc, hGap⟩
    refine .lexeme hMore ?_ hOwn hRest
    rw [hOffset, byteWidth, Nat.add_assoc]

/-- **What is read off characters tiles them.** -/
theorem tiled_of_scan (h : scan offset cs = .ok lexemes) : Tiled offset cs lexemes := by
  fun_induction scan offset cs generalizing lexemes
  case case1 offset =>
    cases h
    exact .blank blank_nil
  case case2 offset c cs hBlank ih => exact (ih h).cons_blank hBlank
  case case3 | case4 => cases h
  case case5 offset c cs hBlank token n hToken source more hMore ih =>
    cases h
    have hOwn := scan_source 0 (Bool.eq_false_iff.2 hBlank) hToken
    have hTiled := @Tiled.lexeme offset [] (cs.drop n) ⟨token, offset, source⟩ more blank_nil rfl
      hOwn (ih hMore)
    rwa [List.nil_append, List.cons_append, List.take_append_drop] at hTiled

/-! ### What tiles a text -/

theorem source_ne_nil (h : scan 0 l.source = .ok [{ l with offset := 0 }]) : l.source ≠ [] := by
  intro hNone
  rw [hNone, scan] at h
  cases h

theorem split_append_cons {ds : List Char} (h : before ++ c :: after = cs ++ ds) :
    (∃ past, before = cs ++ past ∧ ds = past ++ c :: after) ∨
      ∃ past, cs = before ++ c :: past ∧ after = past ++ ds := by
  rcases List.append_eq_append_iff.1 h with ⟨past, hcs, hRest⟩ | ⟨past, hBefore, hRest⟩
  · cases past with
    | nil => exact Or.inl ⟨[], by simp [hcs], by simpa using hRest.symm⟩
    | cons d past =>
      obtain ⟨rfl, hAfter⟩ := List.cons.inj hRest
      exact Or.inr ⟨past, hcs, hAfter⟩
  · exact Or.inl ⟨past, hBefore, hRest⟩

namespace Tiled

theorem place (h : Tiled offset cs lexemes) : ∀ l ∈ lexemes, ∃ before after,
    cs = before ++ (l.source ++ after) ∧ l.offset = offset + byteWidth before := by
  induction h with
  | blank _ => exact fun l hl => (List.not_mem_nil hl).elim
  | @lexeme offset gap rest l lexemes hGap hOffset _ _ ih =>
    refine List.forall_mem_cons.2 ⟨⟨gap, rest, rfl, hOffset⟩, fun k hk => ?_⟩
    obtain ⟨before, after, rfl, hPlace⟩ := ih k hk
    refine ⟨gap ++ (l.source ++ before), after, ?_, ?_⟩
    · simp only [List.append_assoc]
    · rw [hPlace, hOffset, byteWidth_append, byteWidth_append, Nat.add_assoc, Nat.add_assoc]

theorem apart (h : Tiled offset cs lexemes) :
    lexemes.Pairwise fun a b => a.offset + byteWidth a.source ≤ b.offset := by
  induction h with
  | blank _ => exact .nil
  | lexeme _ _ _ hRest ih =>
    refine List.pairwise_cons.2 ⟨fun b hb => ?_, ih⟩
    obtain ⟨before, after, _, hPlace⟩ := hRest.place b hb
    omega

theorem own (h : Tiled offset cs lexemes) :
    ∀ l ∈ lexemes, scan 0 l.source = .ok [{ l with offset := 0 }] := by
  induction h with
  | blank _ => exact fun l hl => (List.not_mem_nil hl).elim
  | lexeme _ _ hOwn _ ih => exact List.forall_mem_cons.2 ⟨hOwn, ih⟩

theorem between {front back : List Lexeme} {a b : Lexeme}
    (h : Tiled offset cs (front ++ a :: b :: back)) : ∃ before gap after,
      cs = before ++ (a.source ++ (gap ++ (b.source ++ after))) ∧ Blank gap ∧
        a.offset = offset + byteWidth before ∧
        b.offset = a.offset + byteWidth (a.source ++ gap) := by
  obtain ⟨lexemes, hLexemes⟩ : ∃ lexemes, lexemes = front ++ a :: b :: back := ⟨_, rfl⟩
  rw [← hLexemes] at h
  induction h generalizing front with
  | blank _ => simp at hLexemes
  | @lexeme offset gap rest l lexemes hGap hOffset hOwn hRest ih =>
    cases front with
    | nil =>
      obtain ⟨rfl, rfl⟩ := List.cons.inj hLexemes
      cases hRest with
      | @lexeme _ gap' rest' _ _ hGap' hOffset' _ _ =>
        refine ⟨gap, gap', rest', rfl, hGap', hOffset, ?_⟩
        rw [hOffset', byteWidth_append, Nat.add_assoc]
    | cons first front =>
      obtain ⟨rfl, rfl⟩ := List.cons.inj hLexemes
      obtain ⟨before, gap', after, hText, hGap', hFirst, hSecond⟩ := ih rfl
      refine ⟨gap ++ (l.source ++ before), gap', after, ?_, hGap', ?_, hSecond⟩
      · rw [hText]
        simp only [List.append_assoc]
      · rw [hFirst, hOffset, byteWidth_append, byteWidth_append, Nat.add_assoc, Nat.add_assoc]

theorem covered (h : Tiled offset (before ++ c :: after) lexemes) (hc : isBlank c = false) :
    ∃ l ∈ lexemes, l.Spans (offset + byteWidth before) := by
  obtain ⟨cs, hcs⟩ : ∃ cs, cs = before ++ c :: after := ⟨_, rfl⟩
  rw [← hcs] at h
  induction h generalizing before with
  | blank hGap =>
    have hMem : c ∈ before ++ c :: after := by simp
    rw [hGap c (hcs ▸ hMem)] at hc
    cases hc
  | @lexeme offset gap rest l lexemes hGap hOffset hOwn hRest ih =>
    rcases split_append_cons hcs.symm with ⟨past, hBefore, hRest⟩ | ⟨past, hIn, _⟩
    · rcases split_append_cons hRest.symm with ⟨past', hPast, hMore⟩ | ⟨past', hIn, _⟩
      · -- behind the first span
        obtain ⟨k, hk, hSpans⟩ := ih hMore
        refine ⟨k, List.mem_cons_of_mem _ hk, ?_⟩
        rw [hBefore, hPast, byteWidth_append, byteWidth_append, ← Nat.add_assoc, ← hOffset,
          ← Nat.add_assoc]
        exact hSpans
      · -- in the first span
        have hPos := byteWidth_pos c past'
        refine ⟨l, List.mem_cons_self, ?_⟩
        rw [Lexeme.Spans, hBefore, hIn, byteWidth_append, byteWidth_append, ← Nat.add_assoc,
          ← hOffset]
        omega
    · have hMem : c ∈ gap := by simp [hIn]
      rw [hGap c hMem] at hc
      cases hc

end Tiled

/-- The lexemes tile the text. -/
structure Tiling (text : String) (lexemes : List Lexeme) : Prop where
  increasing : lexemes.Pairwise fun a b => a.offset < b.offset
  boundary : ∀ l ∈ lexemes, (String.Pos.Raw.mk l.offset).IsValid text
  /-- A span is a part of the text, and not empty. -/
  place : ∀ l ∈ lexemes, l.source ≠ [] ∧ ∃ before after,
    text.toList = before ++ (l.source ++ after) ∧ l.offset = byteWidth before
  /-- A character that is not blank is in one span, be it in a literal or not. -/
  covered : ∀ before c after, text.toList = before ++ c :: after → isBlank c = false →
    ∃! l, l ∈ lexemes ∧ l.Spans (byteWidth before)
  between : ∀ front a b back, lexemes = front ++ a :: b :: back → ∃ before gap after,
    text.toList = before ++ (a.source ++ (gap ++ (b.source ++ after))) ∧ Blank gap ∧
      a.offset = byteWidth before ∧ b.offset = a.offset + byteWidth (a.source ++ gap)
  alone : ∀ l ∈ lexemes, tokenize (String.ofList l.source) = .ok [{ l with offset := 0 }]

theorem eq_of_spans {a b : Lexeme} {byte : Nat}
    (h : lexemes.Pairwise fun a b => a.offset + byteWidth a.source ≤ b.offset) (ha : a ∈ lexemes)
    (hb : b ∈ lexemes) (hSpansA : a.Spans byte) (hSpansB : b.Spans byte) : a = b := by
  induction h with
  | nil => exact (List.not_mem_nil ha).elim
  | @cons first rest hFirst _ ih =>
    obtain ⟨hFromA, hToA⟩ := hSpansA
    obtain ⟨hFromB, hToB⟩ := hSpansB
    rcases List.mem_cons.1 ha with rfl | haRest
    · rcases List.mem_cons.1 hb with rfl | hbRest
      · rfl
      · have hApart := hFirst b hbRest
        omega
    · rcases List.mem_cons.1 hb with rfl | hbRest
      · have hApart := hFirst a haRest
        omega
      · exact ih haRest hbRest

theorem Tiled.tiling (h : Tiled 0 text.toList lexemes) : Tiling text lexemes where
  increasing := by
    refine h.apart.imp_of_mem fun ha _ hApart => ?_
    obtain ⟨c, cs, hSource⟩ := List.exists_cons_of_ne_nil (source_ne_nil (h.own _ ha))
    have hPos := byteWidth_pos c cs
    rw [← hSource] at hPos
    omega
  boundary l hl := by
    obtain ⟨before, after, hText, hPlace⟩ := h.place l hl
    rw [hPlace, Nat.zero_add]
    exact isValid_byteWidth hText
  place l hl := by
    obtain ⟨before, after, hText, hPlace⟩ := h.place l hl
    exact ⟨source_ne_nil (h.own l hl), before, after, hText, by rw [hPlace, Nat.zero_add]⟩
  covered before c after hText hc := by
    rw [hText] at h
    obtain ⟨l, hl, hSpans⟩ := h.covered hc
    rw [Nat.zero_add] at hSpans
    exact ⟨l, ⟨hl, hSpans⟩, fun k hk => eq_of_spans h.apart hk.1 hl hk.2 hSpans⟩
  between front a b back hLexemes := by
    rw [hLexemes] at h
    obtain ⟨before, gap, after, hText, hGap, hFirst, hSecond⟩ := h.between
    exact ⟨before, gap, after, hText, hGap, by rw [hFirst, Nat.zero_add], hSecond⟩
  alone l hl := by
    rw [tokenize, String.toList_ofList]
    exact h.own l hl

/-! ### Texts that do not tokenize -/

theorem Fault.message_names (fault : Fault) (offset : Nat) : ∃ lead tail,
    fault.message offset = lead ++ "offset " ++ toString offset ++ tail := by
  cases fault with
  | emptyParameterName =>
    have hLead : "empty parameter name at " ++ "offset " = "empty parameter name at offset " := rfl
    refine ⟨"empty parameter name at ", "", ?_⟩
    rw [hLead, String.append_empty]
    rfl
  | unexpectedCharacter c =>
    have hLead : "' at offset " = "' at " ++ "offset " := rfl
    refine ⟨"unexpected character '" ++ String.singleton c ++ "' at ", "", ?_⟩
    show "unexpected character '" ++ String.singleton c ++ ("' at offset " ++ toString offset) = _
    rw [hLead, String.append_empty]
    simp only [String.append_assoc]
  | unterminatedString =>
    have hLead : "unterminated string starting at " ++ "offset " =
      "unterminated string starting at offset " := rfl
    refine ⟨"unterminated string starting at ", "", ?_⟩
    rw [hLead, String.append_empty]
    rfl
  | integerTooLarge digits =>
    have hLead : "' at offset " = "' at " ++ "offset " := rfl
    refine ⟨"invalid integer '" ++ digits ++ "' at ",
      ": number too large to fit in target type", ?_⟩
    show "invalid integer '" ++ digits ++ ("' at offset " ++ toString offset ++
      ": number too large to fit in target type") = _
    rw [hLead]
    simp only [String.append_assoc]

/-- An error stands at the first character that starts no token, behind tokens and blanks. -/
theorem exists_stuck (h : scan offset cs = .error e) : ∃ before c after fault,
    cs = before ++ c :: after ∧ isBlank c = false ∧ readToken c after = .error fault ∧
      e = .noToken fault (offset + byteWidth before) ∧
      ∃ lexemes, scan offset before = .ok lexemes := by
  fun_induction scan offset cs generalizing e
  case case1 | case5 => cases h
  case case2 offset c cs hBlank ih =>
    obtain ⟨before, d, after, fault, rfl, hd, hToken, hError, lexemes, hScan⟩ := ih h
    refine ⟨c :: before, d, after, fault, rfl, hd, hToken, ?_, lexemes, ?_⟩
    · rw [hError, byteWidth, Nat.add_assoc]
    · rw [scan, if_pos hBlank, hScan]
  case case3 offset c cs hBlank fault hToken =>
    cases h
    exact ⟨[], c, cs, fault, rfl, Bool.eq_false_iff.2 hBlank, hToken, rfl, [], by rw [scan]⟩
  case case4 offset c cs hBlank token n hToken source e' hMore ih =>
    cases h
    obtain ⟨before, d, after, fault, hDrop, hd, hNone, hError, lexemes, hScan⟩ := ih hMore
    have hLength : (cs.take n).length = n := List.length_take_of_le (readToken_le hToken)
    -- the token is also read where the text is cut off at the error
    have hCut : cs.take (n + before.length) = cs.take n ++ before := by
      rw [List.take_add, hDrop, List.take_left]
    have hOwn := readToken_take hToken (Nat.le_add_right n before.length)
    rw [hCut] at hOwn
    refine ⟨source ++ before, d, after, fault, ?_, hd, hNone, ?_,
      ⟨token, offset, source⟩ :: lexemes, ?_⟩
    · rw [List.append_assoc, ← hDrop, List.cons_append, List.take_append_drop]
    · rw [hError, byteWidth_append, Nat.add_assoc]
    · rw [List.cons_append, scan_cons offset (Bool.eq_false_iff.2 hBlank) hOwn,
        List.take_left' hLength, List.drop_left' hLength, hScan]
      rfl

/-- The error names the place of a character: before it are tokens and blanks, and with it and what
is after it no token starts. -/
structure Stuck (text : String) (e : ParseError) (before : List Char) (c : Char)
    (after : List Char) (fault : Fault) : Prop where
  error : e = .noToken fault (byteWidth before)
  named : ∃ lead tail, e.message = lead ++ "offset " ++ toString (byteWidth before) ++ tail
  place : text.toList = before ++ c :: after
  boundary : (String.Pos.Raw.mk (byteWidth before)).IsValid text
  start : isBlank c = false
  tokens : ∃ lexemes, tokenize (String.ofList before) = .ok lexemes
  offends : Offends c after fault

theorem stuck_of_tokenize (h : tokenize text = .error e) :
    ∃ before c after fault, Stuck text e before c after fault := by
  obtain ⟨before, c, after, fault, hText, hc, hToken, hError, lexemes, hScan⟩ := exists_stuck h
  rw [Nat.zero_add] at hError
  refine ⟨before, c, after, fault, hError, ?_, hText, isValid_byteWidth hText, hc, ⟨lexemes, ?_⟩,
    readToken_eq_error_iff.1 hToken⟩
  · rw [hError]
    exact fault.message_names (byteWidth before)
  · rw [tokenize, String.toList_ofList, hScan]

/-- **Tokens tile the text.**  Every text is read to its end or to an error, with no index out of
range.  The spans of its tokens lie one behind the other with blanks between them and around; and
the place that an error names is that of the character which starts no token. -/
theorem tokenize_tiles (text : String) :
    scanAt text.toList (text.length + 1) 0 = some (tokenize text) ∧
      match tokenize text with
      | .ok lexemes => Tiling text lexemes
      | .error e => ∃ before c after fault, Stuck text e before c after fault := by
  refine ⟨scanAt_eq_tokenize text, ?_⟩
  cases h : tokenize text with
  | ok lexemes => exact (tiled_of_scan h).tiling
  | error e => exact stuck_of_tokenize h

/-- Offsets count bytes: the first character takes two. -/
example : (tokenize "é<-'a b'").toOption.map (·.map (·.offset)) = some [0, 2, 4] := by
  decide +kernel

example : tokenize "é 'x" = .error (.noToken .unterminatedString 3) := by decide +kernel

end CodeGraph.Query
