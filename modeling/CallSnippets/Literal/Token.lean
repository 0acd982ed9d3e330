import CallSnippets.Text.Blank

/-!
# Tokens of a literal

A body is cut into the strings it holds and the single characters between them. A string is a key if
a colon follows it, with or without blanks before the colon; the blanks and the colon then belong to
it. This is done without regard to anything else, so it works on any text: a quotation mark that no
later one closes is a character like the others.

## Main definitions

* `stringEnd`: The characters of a string up to its closing mark, and what follows.
* `dropColon?`: What follows blanks and a colon.
* `Token`, `tokens`: The tokens of a text.
* `Token.source`: The text of a token.

## Theorems

* `eq_of_stringEnd`: What `stringEnd` splits is the text it is given.
* `eq_of_colonSplit`: What `colonSplit` splits is the text it is given.
-/

namespace CallSnippets

/-- The mark at both ends of a string. -/
abbrev stringMark : CodePoint := '"'

/-- The mark between a key and its value. -/
abbrev keyMark : CodePoint := ':'

/-- The characters of a string up to the mark that closes it, and the text behind the mark. A
    backslash takes the next character with it. -/
def stringEnd : Text → Option (Text × Text)
  | [] => none
  | '"' :: rest => some ([], rest)
  | ['\\'] => none
  | '\\' :: c :: rest => (stringEnd rest).map fun p => ('\\' :: c :: p.1, p.2)
  | c :: rest => (stringEnd rest).map fun p => (c :: p.1, p.2)

/-- The blanks before a colon and the text behind it, if a text starts with these. -/
def colonSplit : Text → Option (Text × Text)
  | [] => none
  | c :: rest =>
    if c = keyMark then some ([], rest)
    else if Text.isBlank c then (colonSplit rest).map fun p => (c :: p.1, p.2)
    else none

theorem eq_of_stringEnd {t content rest : Text} (h : stringEnd t = some (content, rest)) :
    t = content ++ stringMark :: rest := by
  fun_induction stringEnd t generalizing content with
  | case1 => simp at h
  | case2 r => simp at h; obtain ⟨rfl, rfl⟩ := h; rfl
  | case3 => simp at h
  | case4 c r ih =>
    simp only [Option.map_eq_some_iff, Prod.exists, Prod.mk.injEq] at h
    obtain ⟨a, b, hab, rfl, rfl⟩ := h
    simpa using ih hab
  | case5 c r _ _ _ ih =>
    simp only [Option.map_eq_some_iff, Prod.exists, Prod.mk.injEq] at h
    obtain ⟨a, b, hab, rfl, rfl⟩ := h
    simpa using ih hab

theorem eq_of_colonSplit {t blanks rest : Text} (h : colonSplit t = some (blanks, rest)) :
    t = blanks ++ keyMark :: rest := by
  induction t generalizing blanks with
  | nil => simp [colonSplit] at h
  | cons c r ih =>
    unfold colonSplit at h
    split at h
    · next hc => simp at h; obtain ⟨rfl, rfl⟩ := h; simp [hc]
    · split at h
      · simp only [Option.map_eq_some_iff, Prod.exists, Prod.mk.injEq] at h
        obtain ⟨a, b, hab, rfl, rfl⟩ := h
        simpa using ih hab
      · simp at h

/-- A token of a text. -/
inductive Token where
  /-- A character outside of strings. -/
  | char (c : CodePoint)
  /-- A string, by the characters between its marks. -/
  | string (content : Text)
  /-- A string that a colon follows, with the blanks before the colon. -/
  | key (content blanks : Text)
  deriving DecidableEq, Repr

/-- The text of a token. -/
def Token.source : Token → Text
  | char c => [c]
  | string content => stringMark :: content ++ [stringMark]
  | key content blanks => stringMark :: content ++ stringMark :: blanks ++ [keyMark]

/-- The first token of a text that is not empty, and the text behind it. -/
def nextToken (c : CodePoint) (rest : Text) : Token × Text :=
  if c = stringMark then
    match stringEnd rest with
    | none => (.char c, rest)
    | some (content, after) =>
      match colonSplit after with
      | none => (.string content, after)
      | some (blanks, after) => (.key content blanks, after)
  else (.char c, rest)

theorem nextToken_source (c : CodePoint) (rest : Text) :
    (nextToken c rest).1.source ++ (nextToken c rest).2 = c :: rest := by
  unfold nextToken
  split
  · next hc =>
    subst hc
    split
    · rfl
    · next h =>
      rw [eq_of_stringEnd h]
      split
      · simp [Token.source]
      · next h' => rw [eq_of_colonSplit h']; simp [Token.source]
  · rfl

theorem nextToken_shorter (c : CodePoint) (rest : Text) :
    (nextToken c rest).2.length < (c :: rest).length := by
  have h := congrArg List.length (nextToken_source c rest)
  have : 0 < (nextToken c rest).1.source.length := by
    cases (nextToken c rest).1 <;> simp [Token.source]
  simp only [List.length_append] at h
  omega

/-- The tokens of a text. -/
def tokens : Text → List Token
  | [] => []
  | c :: rest => (nextToken c rest).1 :: tokens (nextToken c rest).2
termination_by t => t.length
decreasing_by exact nextToken_shorter c rest

end CallSnippets
