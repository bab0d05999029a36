import Csdl.Text.Cut
import Csdl.Xml.Character

/-!
The markup of a document as a list of tokens. Names and values are as they are written; what they
stand for is not asked here.
-/

namespace Csdl.Xml

/-- A name as it is written: a label behind an optional prefix. -/
structure WrittenName where
  scope : String
  label : String
  deriving DecidableEq, Repr

/-- An attribute as it is written: its name and the inside of its quotes. -/
structure WrittenAttribute where
  name : WrittenName
  value : List Char
  deriving DecidableEq, Repr

/-- A piece of markup or the text between two of them. -/
inductive Token where
  | startTag (name : WrittenName) (attributes : List WrittenAttribute) (closed : Bool)
  | endTag (name : WrittenName)
  | text (raw : List Char)
  | cdata (raw : List Char)
  | comment (content : List Char)
  | instruction (target content : List Char)
  deriving DecidableEq, Repr

/-- Text without the spaces at its start. -/
def skipSpaces (cs : List Char) : List Char :=
  cs.dropWhile isSpace

/-- Whether a part of a name begins as a name has to. -/
def startsName : List Char → Bool
  | [] => false
  | c :: _ => isNameStart c

/-- The name that a run of name characters is. One colon may stand in it, also as its first
character. -/
def WrittenName.ofRun? (run : List Char) : Option WrittenName :=
  match run.splitOn ':' with
  | [label] => if startsName label then some ⟨"", String.ofList label⟩ else none
  | [scope, label] =>
    if (scope.isEmpty || startsName scope) && startsName label then
      some ⟨String.ofList scope, String.ofList label⟩
    else none
  | _ => none

/-- Reads a name. -/
def readName? (cs : List Char) : Option (WrittenName × List Char) :=
  (WrittenName.ofRun? (cs.takeWhile isNameChar)).map fun name => (name, cs.dropWhile isNameChar)

theorem length_of_readName? {cs rest : List Char} {name : WrittenName}
    (h : readName? cs = some (name, rest)) : rest.length ≤ cs.length := by
  obtain ⟨_, _, hEq⟩ := Option.map_eq_some_iff.1 h
  rw [← (Prod.mk.inj hEq).2]
  exact Text.length_dropWhile_le isNameChar cs

theorem length_skipSpaces_le (cs : List Char) : (skipSpaces cs).length ≤ cs.length :=
  Text.length_dropWhile_le isSpace cs

/-- Reads the inside of quotes, and the quotes around it. No tag begins inside. -/
def readQuoted? (cs : List Char) : Option (List Char × List Char) :=
  match cs with
  | [] => none
  | quote :: cs =>
    if quote = '"' || quote = '\'' then
      match Text.cutAtFirst? quote cs with
      | none => none
      | some (inside, rest) => if inside.contains '<' then none else some (inside, rest)
    else none

/-- Quotes that are read leave less than there was. -/
theorem length_of_readQuoted? {cs inside rest : List Char}
    (h : readQuoted? cs = some (inside, rest)) : rest.length < cs.length := by
  cases cs with
  | nil => simp [readQuoted?] at h
  | cons quote cs =>
    simp only [readQuoted?] at h
    split at h
    · split at h
      · simp at h
      next hCut =>
        split at h
        · simp at h
        · have := Text.length_of_cutAtFirst? hCut
          simp only [Option.some.injEq, Prod.mk.injEq] at h
          simp only [List.length_cons, ← h.2]
          omega
    · simp at h

/-- Reads the sign between the name and the value of an attribute. -/
def readEquals? (cs : List Char) : Option (List Char) :=
  match skipSpaces cs with
  | '=' :: rest => some (skipSpaces rest)
  | _ => none

/-- The sign between a name and its value takes at least one character. -/
theorem length_of_readEquals? {cs rest : List Char} (h : readEquals? cs = some rest) :
    rest.length < cs.length := by
  unfold readEquals? at h
  split at h
  next inside hSpaces =>
    have hSkipped := length_skipSpaces_le cs
    have hSkippedAgain := length_skipSpaces_le inside
    rw [hSpaces] at hSkipped
    rw [← Option.some.inj h]
    simp only [List.length_cons] at hSkipped
    omega
  · simp at h

/-- Reads an attribute. -/
def readAttribute? (cs : List Char) : Option (WrittenAttribute × List Char) := do
  let (name, rest) ← readName? cs
  let rest ← readEquals? rest
  let (value, rest) ← readQuoted? rest
  return (⟨name, value⟩, rest)

/-- An attribute leaves less than there was, which lets its readers end. -/
theorem length_of_readAttribute? {cs rest : List Char} {found : WrittenAttribute}
    (h : readAttribute? cs = some (found, rest)) : rest.length < cs.length := by
  simp only [readAttribute?, Option.bind_eq_bind, Option.bind_eq_some_iff, Option.pure_def] at h
  obtain ⟨⟨name, behindName⟩, hName, behindEquals, hEquals, ⟨value, behind⟩, hQuoted, hEq⟩ := h
  have := length_of_readName? hName
  have : behindEquals.length < behindName.length := length_of_readEquals? hEquals
  have : behind.length < behindEquals.length := length_of_readQuoted? hQuoted
  obtain ⟨_, rfl⟩ := Prod.mk.inj (Option.some.inj hEq)
  show behind.length < cs.length
  omega

/-- Reads the attributes of a tag up to its end, behind the attributes `done`, which are held in
reverse. There are spaces before each attribute. Tells also whether the tag closes its element. -/
def readAttributes? (done : List WrittenAttribute) (cs : List Char) :
    Option (List WrittenAttribute × Bool × List Char) :=
  match skipSpaces cs with
  | '/' :: '>' :: rest => some (done.reverse, true, rest)
  | '>' :: rest => some (done.reverse, false, rest)
  | _ =>
    if cs.head?.any isSpace then
      match _hRead : readAttribute? (skipSpaces cs) with
      | none => none
      | some (found, rest) => readAttributes? (found :: done) rest
    else none
termination_by cs.length
decreasing_by
  have := length_of_readAttribute? _hRead
  have := length_skipSpaces_le cs
  omega

/-- The attributes of a tag leave less than there was, if only by the bracket at the end. -/
theorem length_of_readAttributes? {done found : List WrittenAttribute} {cs rest : List Char}
    {closed : Bool} (h : readAttributes? done cs = some (found, closed, rest)) :
    rest.length < cs.length := by
  fun_induction readAttributes? done cs with
  | case1 done cs behind hSpaces =>
    have hSkipped := length_skipSpaces_le cs
    obtain ⟨_, _, rfl⟩ : _ ∧ _ ∧ behind = rest := by simpa using h
    simp only [hSpaces, List.length_cons] at hSkipped
    omega
  | case2 done cs behind hSpaces =>
    have hSkipped := length_skipSpaces_le cs
    obtain ⟨_, _, rfl⟩ : _ ∧ _ ∧ behind = rest := by simpa using h
    simp only [hSpaces, List.length_cons] at hSkipped
    omega
  | case3 => simp at h
  | case4 done cs _ found behind hRead _ _ ih =>
    have := ih h
    have := length_of_readAttribute? hRead
    have := length_skipSpaces_le cs
    omega
  | case5 => simp at h

/-- Reads a start tag behind its bracket. -/
def readStartTag? (cs : List Char) : Option (Token × List Char) := do
  let (name, rest) ← readName? cs
  let (found, closed, rest) ← readAttributes? [] rest
  return (.startTag name found closed, rest)

/-- Reads an end tag behind its bracket and slash. -/
def readEndTag? (cs : List Char) : Option (Token × List Char) :=
  match readName? cs with
  | none => none
  | some (name, rest) =>
    match skipSpaces rest with
    | '>' :: rest => some (.endTag name, rest)
    | _ => none

/-- Reads a comment behind its opening. It ends at the first two dashes, with which the closing
begins. -/
def readComment? (cs : List Char) : Option (Token × List Char) :=
  match Text.cutAt? ['-', '-'] cs with
  | some (content, '>' :: rest) => some (.comment content, rest)
  | _ => none

/-- Reads a section in which nothing is markup, behind its opening. -/
def readCdata? (cs : List Char) : Option (Token × List Char) :=
  (Text.cutAt? [']', ']', '>'] cs).map fun (raw, rest) => (.cdata raw, rest)

/-- What a declaration at the start of a document opens with, behind the first two characters. An
instruction does not. -/
def declarationStart : List Char := ['x', 'm', 'l', ' ']

/-- Reads an instruction behind its opening. -/
def readInstruction? (cs : List Char) : Option (Token × List Char) :=
  if (Text.cutStart? declarationStart cs).isSome || !startsName cs then none
  else
    (Text.cutAt? ['?', '>'] (skipSpaces (cs.dropWhile isNameChar))).map fun (content, rest) =>
      (.instruction (cs.takeWhile isNameChar) content, rest)

/-- Reads what begins with a bracket, behind it. -/
def readMarkup? (cs : List Char) : Option (Token × List Char) :=
  match cs with
  | '!' :: '-' :: '-' :: cs => readComment? cs
  | '!' :: '[' :: 'C' :: 'D' :: 'A' :: 'T' :: 'A' :: '[' :: cs => readCdata? cs
  | '?' :: cs => readInstruction? cs
  | '/' :: cs => readEndTag? cs
  | cs => readStartTag? cs

/-- A start tag leaves no more than there was behind its bracket. -/
theorem length_of_readStartTag? {cs rest : List Char} {token : Token}
    (h : readStartTag? cs = some (token, rest)) : rest.length ≤ cs.length := by
  simp only [readStartTag?, Option.bind_eq_bind, Option.bind_eq_some_iff, Option.pure_def] at h
  obtain ⟨⟨name, behindName⟩, hName, ⟨found, closed, behind⟩, hAttributes, hEq⟩ := h
  have := length_of_readName? hName
  have : behind.length < behindName.length := length_of_readAttributes? hAttributes
  obtain ⟨_, rfl⟩ := Prod.mk.inj (Option.some.inj hEq)
  show behind.length ≤ cs.length
  omega

/-- An end tag leaves no more than there was behind its bracket and slash. -/
theorem length_of_readEndTag? {cs rest : List Char} {token : Token}
    (h : readEndTag? cs = some (token, rest)) : rest.length ≤ cs.length := by
  unfold readEndTag? at h
  split at h
  · simp at h
  next behindName hName =>
    split at h
    next behind hSpaces =>
      have := length_of_readName? hName
      have hSkipped := length_skipSpaces_le behindName
      obtain ⟨_, rfl⟩ := Prod.mk.inj (Option.some.inj h)
      simp only [hSpaces, List.length_cons] at hSkipped
      omega
    · simp at h

/-- A comment leaves no more than there was behind its opening. -/
theorem length_of_readComment? {cs rest : List Char} {token : Token}
    (h : readComment? cs = some (token, rest)) : rest.length ≤ cs.length := by
  unfold readComment? at h
  split at h
  next content behind hCut =>
    have := Text.length_of_cutAt? hCut
    obtain ⟨_, rfl⟩ := Prod.mk.inj (Option.some.inj h)
    simp only [List.length_cons] at this
    omega
  · simp at h

theorem length_of_readCdata? {cs rest : List Char} {token : Token}
    (h : readCdata? cs = some (token, rest)) : rest.length ≤ cs.length := by
  obtain ⟨⟨raw, behind⟩, hCut, hEq⟩ := Option.map_eq_some_iff.1 h
  have := Text.length_of_cutAt? hCut
  obtain ⟨_, rfl⟩ := Prod.mk.inj hEq
  omega

/-- An instruction leaves no more than there was behind its opening. -/
theorem length_of_readInstruction? {cs rest : List Char} {token : Token}
    (h : readInstruction? cs = some (token, rest)) : rest.length ≤ cs.length := by
  unfold readInstruction? at h
  split at h
  · simp at h
  · obtain ⟨⟨content, behind⟩, hCut, hEq⟩ := Option.map_eq_some_iff.1 h
    have := Text.length_of_cutAt? hCut
    have := length_skipSpaces_le (cs.dropWhile isNameChar)
    have := Text.length_dropWhile_le isNameChar cs
    obtain ⟨_, rfl⟩ := Prod.mk.inj hEq
    omega

/-- Whatever begins with a bracket leaves no more than there was behind it. -/
theorem length_of_readMarkup? {cs rest : List Char} {token : Token}
    (h : readMarkup? cs = some (token, rest)) : rest.length ≤ cs.length := by
  unfold readMarkup? at h
  split at h
  · have := length_of_readComment? h
    simp only [List.length_cons]
    omega
  · have := length_of_readCdata? h
    simp only [List.length_cons]
    omega
  · have := length_of_readInstruction? h
    simp only [List.length_cons]
    omega
  · have := length_of_readEndTag? h
    simp only [List.length_cons]
    omega
  · exact length_of_readStartTag? h

/-- Reads all tokens behind the tokens `done`, which are held in reverse. Text runs up to the next
bracket; what closes a section of plain text may not stand in it. -/
def readTokens? (done : List Token) (cs : List Char) : Option (List Token) :=
  match cs with
  | [] => some done.reverse
  | '<' :: cs =>
    match _hRead : readMarkup? cs with
    | none => none
    | some (token, rest) => readTokens? (token :: done) rest
  | c :: cs =>
    let raw := c :: cs.takeWhile (· != '<')
    if (Text.cutAt? [']', ']', '>'] raw).isSome then none
    else readTokens? (.text raw :: done) (cs.dropWhile (· != '<'))
termination_by cs.length
decreasing_by
  · have := length_of_readMarkup? _hRead
    simp only [List.length_cons]
    omega
  · have := Text.length_dropWhile_le (· != '<') cs
    simp only [List.length_cons]
    omega

/-- The tokens of a text, if all of it is well formed markup. -/
def Token.read? (cs : List Char) : Option (List Token) :=
  readTokens? [] cs

/-- Reads what follows an attribute in a declaration: spaces, unless the declaration ends. -/
def readGap? (cs : List Char) : Option (List Char) :=
  match cs with
  | '?' :: '>' :: _ => some cs
  | _ => if cs.head?.any isSpace then some (skipSpaces cs) else none

/-- Reads an attribute of a declaration if its name begins with a given word, and spaces. -/
def readOptional? (word : List Char) (cs : List Char) : Option (List Char) :=
  if (Text.cutStart? word cs).isSome then do
    let (_, rest) ← readAttribute? cs
    readGap? rest
  else some cs

/-- Reads the declaration at the start of a document, behind its opening. It has a version, and
after that perhaps an encoding and whether the document stands alone. -/
def readDeclaration? (cs : List Char) : Option (List Char) := do
  let cs := skipSpaces cs
  let _ ← Text.cutStart? "version".toList cs
  let rest ← readOptional? "version".toList cs
  let rest ← readOptional? "encoding".toList rest
  let rest ←
    if (Text.cutStart? "standalone".toList rest).isSome then
      (readAttribute? rest).map Prod.snd
    else some rest
  Text.cutStart? ['?', '>'] (skipSpaces rest)

end Csdl.Xml
