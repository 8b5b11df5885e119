import SqlTemplate.Text.Cut

/-!
# Tokens between delimiters

A text holds tokens such as `#{name}`: an opening delimiter, a content and a closing delimiter.
A backslash right before an opening delimiter makes that delimiter plain text, one right before a
closing delimiter makes it part of the content; the backslash itself is dropped. An opening
delimiter that is never closed is plain text to the end.

`Delimiters.segments` splits a text into literal text and token contents; everything else here
maps, lists or searches the tokens of that split.
-/

namespace SqlTemplate

/-- The texts that open and close a token. -/
structure Delimiters where
  opening : List Char
  closing : List Char
  opening_ne_nil : opening ≠ []

namespace Delimiters

/-- `${…}`: text replaced by a value. -/
def dollar : Delimiters := ⟨['$', '{'], ['}'], by decide⟩

/-- `#{…}`: a value bound to a placeholder. -/
def hash : Delimiters := ⟨['#', '{'], ['}'], by decide⟩

end Delimiters

/-- A piece of a text: plain text with its escapes resolved, or the content of a token. -/
inductive Segment where
  | literal (text : List Char)
  | token (content : List Char)
deriving DecidableEq, Repr

namespace Segment

def content? : Segment → Option (List Char)
  | literal _ => none
  | token content => some content

end Segment

namespace Delimiters

/-- Whether what follows is escaped: the text so far ends with a backslash. -/
def escapes (before : List Char) : Bool :=
  before.getLast? == some '\\'

theorem length_pos_of_escapes {before : List Char} (h : escapes before = true) :
    0 < before.length := by
  cases before with
  | nil => simp [escapes] at h
  | cons c s => simp

set_option linter.unusedVariables false in
/-- The content up to the first closing delimiter that is not escaped, and what follows it. -/
def readContent (closing s : List Char) : Option (List Char × List Char) :=
  match h : Text.cut? closing s with
  | none => none
  | some (before, after) =>
    if he : escapes before then
      (readContent closing after).map fun (content, rest) =>
        (before.dropLast ++ closing ++ content, rest)
    else some (before, after)
termination_by s.length
decreasing_by
  have := Text.length_of_cut? h
  have := length_pos_of_escapes he
  omega

theorem length_of_readContent {closing s content rest : List Char}
    (h : readContent closing s = some (content, rest)) : rest.length ≤ s.length := by
  fun_induction readContent closing s generalizing content with
  | case1 => simp at h
  | case2 s before after hcut he ih =>
    simp only [Option.map_eq_some_iff, Prod.mk.injEq] at h
    obtain ⟨⟨content', rest'⟩, h, _, rfl⟩ := h
    have := ih h
    have := Text.length_of_cut? hcut
    omega
  | case3 s before after hcut he =>
    simp only [Option.some.injEq, Prod.mk.injEq] at h
    have := Text.length_of_cut? hcut
    obtain ⟨_, rfl⟩ := h
    omega

set_option linter.unusedVariables false in
/-- The literal texts and token contents of a text, in order. -/
def segments (d : Delimiters) (s : List Char) : List Segment :=
  match h : Text.cut? d.opening s with
  | none => [.literal s]
  | some (before, after) =>
    if escapes before then
      .literal (before.dropLast ++ d.opening) :: segments d after
    else
      match hc : readContent d.closing after with
      -- an opening delimiter without an end is text, and so is all that follows
      | none => [.literal s]
      | some (content, rest) => .literal before :: .token content :: segments d rest
termination_by s.length
decreasing_by
  all_goals
    have hlen := Text.length_of_cut? h
    have hpos := List.length_pos_iff.mpr d.opening_ne_nil
  · omega
  · have := length_of_readContent hc
    omega

/-- The text with every token replaced by the answer of `handle`, asked in order; the first
failure of `handle` is the failure of the whole. -/
def scan {m : Type → Type} [Monad m] (d : Delimiters) (handle : String → m String)
    (text : String) : m String := do
  let parts ← (d.segments text.toList).mapM fun
    | .literal t => pure (String.ofList t)
    | .token content => handle (String.ofList content)
  pure (String.join parts)

/-- The text with every token replaced by `f` of its content. -/
def replace (d : Delimiters) (f : String → String) (text : String) : String :=
  String.join ((d.segments text.toList).map fun
    | .literal t => String.ofList t
    | .token content => f (String.ofList content))

def tokens (d : Delimiters) (text : String) : List String :=
  ((d.segments text.toList).filterMap Segment.content?).map String.ofList

def hasToken (d : Delimiters) (text : String) : Bool :=
  (d.segments text.toList).any (·.content?.isSome)

/-- A token with the given content, written without escapes. -/
def wrap (d : Delimiters) (content : String) : String :=
  String.ofList d.opening ++ content ++ String.ofList d.closing

end Delimiters

end SqlTemplate
