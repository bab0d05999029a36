import Csdl.Proofs.Query.Plain
import Csdl.Proofs.Text.Blank

/-! Query texts as rows of tokens. Blanks may stand before, between and behind tokens, never inside
of one, and a name is the label behind its prefix. What a row of tokens is laid out from does not
say which prefixes or blanks stand there. -/
namespace Csdl

namespace Query

/-- A run of characters that names `label`: the label alone, or behind a prefix and a colon. -/
structure IsName (run : List Char) (label : String) : Prop where
  chars : ∀ c ∈ run, isNameChar c = true
  ne_empty : label.toList ≠ []
  colon_notMem : ':' ∉ label.toList
  spelled : run = label.toList ∨ ∃ before, run = before ++ ':' :: label.toList

theorem behindPrefix_of_notMem {run : List Char} (h : ':' ∉ run) : behindPrefix run = run := by
  have hRun : ∀ c ∈ run.reverse, (c != ':') = true := fun c hMem =>
    bne_iff_ne.2 fun hSame => h (hSame ▸ List.mem_reverse.1 hMem)
  rw [behindPrefix, List.takeWhile_eq_self_iff.2 hRun, List.reverse_reverse]

/-- What stands behind a colon is all there is behind the prefix, if no colon follows. -/
theorem behindPrefix_append {before label : List Char} (h : ':' ∉ label) :
    behindPrefix (before ++ ':' :: label) = label := by
  have hLabel : ∀ c ∈ label.reverse, (c != ':') = true := fun c hMem =>
    bne_iff_ne.2 fun hSame => h (hSame ▸ List.mem_reverse.1 hMem)
  have hReverse : (before ++ ':' :: label).reverse = label.reverse ++ ':' :: before.reverse := by
    simp
  rw [behindPrefix, hReverse, List.takeWhile_append_of_pos hLabel]
  simp

theorem colon_notMem_behindPrefix (run : List Char) : ':' ∉ behindPrefix run := by
  intro hMem
  have hColon := List.mem_takeWhile_imp (List.mem_reverse.1 hMem)
  exact absurd hColon (by decide)

/-- A run is what stands behind its prefix, alone or behind the last colon. -/
theorem exists_prefix (run : List Char) :
    run = behindPrefix run ∨ ∃ before, run = before ++ ':' :: behindPrefix run := by
  -- the last colon is the first one from behind
  have hWhole := congrArg List.reverse
    (List.takeWhile_append_dropWhile (p := (· != ':')) (l := run.reverse))
  rw [List.reverse_append, List.reverse_reverse] at hWhole
  have hHead := List.head?_dropWhile_not (· != ':') run.reverse
  cases hDrop : run.reverse.dropWhile (· != ':') with
  | nil =>
      rw [hDrop] at hWhole
      exact .inl hWhole.symm
  | cons c before =>
      rw [hDrop] at hWhole hHead
      obtain rfl : c = ':' := by simpa using hHead
      exact .inr ⟨before.reverse, by simpa [behindPrefix] using hWhole.symm⟩

/-- Reading a run keeps the label that it names. -/
theorem isName_iff_spells {run : List Char} {label : String} :
    IsName run label ↔ Spells run label := by
  constructor
  · rintro ⟨hChars, hEmpty, hColon, hSpelled⟩
    have hLabel : behindPrefix run = label.toList := by
      rcases hSpelled with rfl | ⟨before, rfl⟩
      · exact behindPrefix_of_notMem hColon
      · exact behindPrefix_append hColon
    refine ⟨hChars, ?_, ?_⟩
    · rw [hLabel, String.ofList_toList]
    · rw [hLabel]
      exact List.isEmpty_eq_false_iff.2 hEmpty
  · rintro ⟨hChars, rfl, hNamed⟩
    refine ⟨hChars, ?_, ?_, ?_⟩
    · rw [String.toList_ofList]
      exact List.isEmpty_eq_false_iff.1 hNamed
    · rw [String.toList_ofList]
      exact colon_notMem_behindPrefix run
    · rw [String.toList_ofList]
      exact exists_prefix run

/-- A part of a query text inside of which no blank may stand, a quoted one apart. -/
inductive Token where
  | name (label : String)
  | sign (label : String)
  | mark (c : Char)
  | literal (content : String)
  deriving DecidableEq, Repr

/-- The characters that are tokens by themselves. -/
def marks : List Char := ['/', '[', '=', ']']

/-- The characters that a literal may stand between. -/
def quotes : List Char := ['\'', '"']

/-- A text begins with a token, and `rest` stands behind it. A name goes on as far as it can, and
a literal up to the quote that it begins with. -/
inductive Starts : List Char → Token → List Char → Prop where
  | name {run rest : List Char} {label : String} (hName : IsName run label)
      (hEnd : ∀ c ∈ rest.head?, isNameChar c = false) : Starts (run ++ rest) (.name label) rest
  | sign {run rest : List Char} {label : String} (hName : IsName run label)
      (hEnd : ∀ c ∈ rest.head?, isNameChar c = false) :
      Starts ('@' :: (run ++ rest)) (.sign label) rest
  | mark {c : Char} {rest : List Char} (hMark : c ∈ marks) : Starts (c :: rest) (.mark c) rest
  | literal {quote : Char} {content rest : List Char} (hQuote : quote ∈ quotes)
      (hContent : quote ∉ content) :
      Starts (quote :: (content ++ quote :: rest)) (.literal (String.ofList content)) rest

/-- A text is a row of tokens with blanks before each of them, and `rest` stands behind. -/
inductive Lays : List Char → List Token → List Char → Prop where
  | nil {rest : List Char} : Lays rest [] rest
  | cons {blanks text behind rest : List Char} {token : Token} {tokens : List Token}
      (hBlanks : ∀ c ∈ blanks, Text.isBlank c = true) (hStarts : Starts text token behind)
      (hLays : Lays behind tokens rest) : Lays (blanks ++ text) (token :: tokens) rest

/-- A whole text is a row of tokens, with blanks also at its end. -/
def IsRow (text : List Char) (tokens : List Token) : Prop :=
  ∃ blanks, Lays text tokens blanks ∧ ∀ c ∈ blanks, Text.isBlank c = true

/-- Texts that are the same row of tokens, whatever their prefixes and blanks. -/
def Relaid (text other : List Char) : Prop :=
  ∃ tokens, IsRow text tokens ∧ IsRow other tokens

variable {total : Nat} {cs rest : List Char} {token : Token} {tokens more : List Token}
  {label : String}

/-- No token begins with a blank. -/
theorem Starts.trimStart_eq (h : Starts cs token rest) : Text.trimStart cs = cs := by
  cases h with
  | name hName =>
      obtain ⟨c, run, rfl, hBlank, -⟩ := (isName_iff_spells.1 hName).starts
      exact Text.trimStart_cons_of_not_blank hBlank
  | sign => exact Text.trimStart_cons_of_not_blank (by decide)
  | mark hMark =>
      have hBlank : marks.all (!Text.isBlank ·) = true := by decide
      exact Text.trimStart_cons_of_not_blank (by simpa using List.all_eq_true.1 hBlank _ hMark)
  | literal hQuote =>
      have hBlank : quotes.all (!Text.isBlank ·) = true := by decide
      exact Text.trimStart_cons_of_not_blank (by simpa using List.all_eq_true.1 hBlank _ hQuote)

/-- The sign of an attribute stands directly before its name. -/
theorem starts_sign_iff : Starts cs (.sign label) rest ↔
    ∃ behind, cs = '@' :: behind ∧ Starts behind (.name label) rest := by
  constructor
  · rintro (_ | ⟨hName, hEnd⟩)
    exact ⟨_, rfl, .name hName hEnd⟩
  · rintro ⟨behind, rfl, hBehind⟩
    cases hBehind with
    | name hName hEnd => exact .sign hName hEnd

/-- No name begins with the sign of an attribute. -/
theorem Starts.head?_ne_sign (h : Starts cs (.name label) rest) : cs.head? ≠ some '@' := by
  cases h with
  | name hName =>
      obtain ⟨c, run, rfl, -, hSign⟩ := (isName_iff_spells.1 hName).starts
      simpa using hSign

/-- A mark is the first character itself. -/
theorem starts_mark_iff {mark : Char} :
    Starts cs (.mark mark) rest ↔ mark ∈ marks ∧ cs = mark :: rest := by
  constructor
  · intro h
    cases h with
    | mark hMark => exact ⟨hMark, rfl⟩
  · rintro ⟨hMark, rfl⟩
    exact .mark hMark

theorem lays_nil_iff : Lays cs [] rest ↔ rest = cs :=
  ⟨fun h => by cases h; rfl, fun h => h ▸ .nil⟩

/-- A row begins with its first token, behind blanks. -/
theorem lays_cons_iff : Lays cs (token :: tokens) rest ↔
    ∃ behind, Starts (Text.trimStart cs) token behind ∧ Lays behind tokens rest := by
  constructor
  · rintro (_ | ⟨hBlanks, hStarts, hLays⟩)
    refine ⟨_, ?_, hLays⟩
    rwa [Text.trimStart_append hBlanks, hStarts.trimStart_eq]
  · rintro ⟨behind, hStarts, hLays⟩
    obtain ⟨blanks, hBlanks, hText⟩ := Text.exists_append_trimStart cs
    rw [hText]
    exact .cons hBlanks hStarts hLays

/-- A row of tokens can be cut between any two of them. -/
theorem lays_append_iff : Lays cs (tokens ++ more) rest ↔
    ∃ behind, Lays cs tokens behind ∧ Lays behind more rest := by
  induction tokens generalizing cs with
  | nil => simp [lays_nil_iff]
  | cons token tokens ih =>
      rw [List.cons_append, lays_cons_iff]
      simp only [lays_cons_iff, ih]
      constructor
      · rintro ⟨first, hStarts, behind, hTokens, hMore⟩
        exact ⟨behind, ⟨first, hStarts, hTokens⟩, hMore⟩
      · rintro ⟨behind, ⟨first, hStarts, hTokens⟩, hMore⟩
        exact ⟨first, hStarts, behind, hTokens, hMore⟩

theorem isRow_nil_iff : IsRow cs [] ↔ Text.trimStart cs = [] := by
  rw [Text.trimStart_eq_nil_iff]
  constructor
  · rintro ⟨blanks, hLays, hBlanks⟩
    rwa [lays_nil_iff.1 hLays] at hBlanks
  · exact fun hBlanks => ⟨cs, .nil, hBlanks⟩

/-- A whole text can be cut between any two of its tokens. -/
theorem isRow_append_iff {tokens more : List Token} :
    IsRow cs (tokens ++ more) ↔ ∃ behind, Lays cs tokens behind ∧ IsRow behind more := by
  constructor
  · rintro ⟨blanks, hLays, hBlanks⟩
    obtain ⟨behind, hTokens, hMore⟩ := lays_append_iff.1 hLays
    exact ⟨behind, hTokens, blanks, hMore, hBlanks⟩
  · rintro ⟨behind, hTokens, blanks, hMore, hBlanks⟩
    exact ⟨blanks, lays_append_iff.2 ⟨behind, hTokens, hMore⟩, hBlanks⟩

/-- A whole text begins with its first token behind blanks. -/
theorem isRow_cons_iff {token : Token} {tokens : List Token} : IsRow cs (token :: tokens) ↔
    ∃ behind, Starts (Text.trimStart cs) token behind ∧ IsRow behind tokens := by
  constructor
  · rintro ⟨blanks, hLays, hBlanks⟩
    obtain ⟨behind, hStarts, hTokens⟩ := lays_cons_iff.1 hLays
    exact ⟨behind, hStarts, blanks, hTokens, hBlanks⟩
  · rintro ⟨behind, hStarts, blanks, hTokens, hBlanks⟩
    exact ⟨blanks, lays_cons_iff.2 ⟨behind, hStarts, hTokens⟩, hBlanks⟩

/-- Reading a name takes the token that a text begins with. -/
theorem readName_eq_ok_iff :
    readName total cs = .ok (label, rest) ↔ Starts cs (.name label) rest := by
  constructor
  · intro hRead
    simp only [readName] at hRead
    split at hRead
    · cases hRead
    · next hNamed =>
        obtain ⟨hLabel, hRest⟩ := Prod.mk.inj (Except.ok.inj hRead)
        have hName : IsName (cs.takeWhile isNameChar) label :=
          isName_iff_spells.2 ⟨fun c hMem => List.mem_takeWhile_imp hMem, hLabel,
            Bool.not_eq_true _ ▸ hNamed⟩
        have hEnd : ∀ c ∈ rest.head?, isNameChar c = false := by
          intro c hHead
          have hNot := List.head?_dropWhile_not isNameChar cs
          rw [hRest, Option.mem_def.1 hHead] at hNot
          simpa using hNot
        rw [← List.takeWhile_append_dropWhile (p := isNameChar) (l := cs), hRest]
        exact .name hName hEnd
  · rintro (⟨hName, hEnd⟩)
    exact readName_append (isName_iff_spells.1 hName) hEnd

theorem mem_quotes_iff {c : Char} :
    c ∈ quotes ↔ (decide (c = '\'') || decide (c = '"')) = true := by
  simp [quotes]

/-- A text in quotes is read exactly where a literal begins. -/
theorem readLiteral_eq_ok_iff {content : String} :
    readLiteral cs = .ok (content, rest) ↔ Starts cs (.literal content) rest := by
  constructor
  · intro hRead
    cases cs with
    | nil => cases hRead
    | cons quote cs =>
        simp only [readLiteral] at hRead
        split at hRead
        · next hQuote =>
            split at hRead
            · cases hRead
            · next inside behind hCut =>
                obtain ⟨rfl, rfl⟩ := Prod.mk.inj (Except.ok.inj hRead)
                rw [Text.append_of_cutAtFirst? hCut]
                exact .literal (mem_quotes_iff.2 hQuote) (Text.notMem_of_cutAtFirst? hCut)
        · cases hRead
  · rintro (_ | _ | _ | ⟨hQuote, hContent⟩)
    simp only [readLiteral, mem_quotes_iff.1 hQuote, if_true, Text.cutAtFirst?_append hContent]

/-- The token that a text begins with, told from its first character. -/
def leadingToken? (cs : List Char) : Option (Token × List Char) := do
  let c ← cs.head?
  if c = '@' then
    let (label, rest) ← (readName 0 cs.tail).toOption
    return (.sign label, rest)
  else if c ∈ marks then
    return (.mark c, cs.tail)
  else if c ∈ quotes then
    let (content, rest) ← (readLiteral cs).toOption
    return (.literal content, rest)
  else
    let (label, rest) ← (readName 0 cs).toOption
    return (.name label, rest)

/-- The first character decides which token a text begins with, and where it ends. -/
theorem Starts.leadingToken?_eq (h : Starts cs token rest) :
    leadingToken? cs = some (token, rest) := by
  have hRead := h
  cases h with
  | @name run rest label hName hEnd =>
      obtain ⟨c, tail, rfl, -, hSign⟩ := (isName_iff_spells.1 hName).starts
      have hChar : isNameChar c = true := hName.chars c List.mem_cons_self
      -- no mark and no quote can be in a name, so the kinds differ in their first characters
      have hOther : (marks ++ quotes).all (!isNameChar ·) = true := by decide +kernel
      have hNot : c ∉ marks ++ quotes := fun hMem => by
        have hFalse := List.all_eq_true.1 hOther c hMem
        rw [hChar] at hFalse
        cases hFalse
      rw [List.mem_append, not_or] at hNot
      have hTaken : readName 0 _ = _ := readName_eq_ok_iff.2 hRead
      simp [leadingToken?, hSign, hNot.1, hNot.2, List.cons_append ▸ hTaken, Except.toOption]
  | sign hName hEnd =>
      have hTaken : readName 0 _ = _ := readName_eq_ok_iff.2 (Starts.name hName hEnd)
      simp [leadingToken?, hTaken, Except.toOption]
  | mark hMark =>
      have hSign := ne_of_mem_of_not_mem hMark (by decide : '@' ∉ marks)
      simp [leadingToken?, hSign, hMark]
  | literal hQuote hContent =>
      have hSign := ne_of_mem_of_not_mem hQuote (by decide : '@' ∉ quotes)
      have hNoMark : quotes.all (· ∉ marks) = true := by decide
      have hMark := of_decide_eq_true (List.all_eq_true.1 hNoMark _ hQuote)
      have hTaken := readLiteral_eq_ok_iff.2 hRead
      simp [leadingToken?, hSign, hMark, hQuote, hTaken, Except.toOption]

/-- A text begins with one token only. -/
theorem Starts.unique {other : Token} {behind : List Char} (h : Starts cs token rest)
    (hOther : Starts cs other behind) : token = other ∧ rest = behind :=
  Prod.mk.inj (Option.some.inj (h.leadingToken?_eq.symm.trans hOther.leadingToken?_eq))

theorem not_starts_nil : ¬ Starts [] token rest := fun h => by
  cases h.leadingToken?_eq

/-- No text is two rows of tokens. -/
theorem IsRow.unique (h : IsRow cs tokens) (hMore : IsRow cs more) : tokens = more := by
  induction tokens generalizing cs more with
  | nil =>
      cases more with
      | nil => rfl
      | cons token more =>
          obtain ⟨_, hStarts, -⟩ := isRow_cons_iff.1 hMore
          rw [isRow_nil_iff.1 h] at hStarts
          exact absurd hStarts not_starts_nil
  | cons token tokens ih =>
      obtain ⟨behind, hStarts, hRow⟩ := isRow_cons_iff.1 h
      cases more with
      | nil =>
          rw [isRow_nil_iff.1 hMore] at hStarts
          exact absurd hStarts not_starts_nil
      | cons other more =>
          obtain ⟨behind', hStarts', hRow'⟩ := isRow_cons_iff.1 hMore
          obtain ⟨rfl, rfl⟩ := hStarts.unique hStarts'
          rw [ih hRow hRow']

end Query

end Csdl
