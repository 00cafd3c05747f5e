import DependencyEvidence.Text.Token
import DependencyEvidence.Unicode.Blank
import DependencyEvidence.Unicode.Lowercase

/-!
# Token streams

A stream is a source of tokens under a stack of filters, each of which pulls from the one below it only when it has to.
A stream remembers where an interrupted pass stopped.

* `Stream.stacked` puts filters over a source.
* `Stream.feed` hands tokens to a consumer until the consumer has what it wants. It is the one loop of this module:
  recursion on the stack, with the consumer growing at each filter.
* `Stream.next` takes one token and `Stream.drain` takes them all.
* `Stream.finish` gives the increment that trails the last token, and `Stream.reset` starts over.
-/

namespace DependencyEvidence

/-! ## Consumers -/

/-- What a consumer says to a token: it wants more, or it is done. -/
inductive Demand (σ ρ : Type) where
  | more (state : σ)
  | done (result : ρ)

/-- Feeds a list to a consumer; the tokens left over are those that it did not look at. -/
def feedList {σ ρ : Type} (f : σ → Token → Demand σ ρ) : σ → List Token → Demand σ ρ × List Token
  | a, [] => (.more a, [])
  | a, t :: rest =>
    match f a t with
    | .more b => feedList f b rest
    | .done r => (.done r, rest)

/-! ## What the filters do to one token -/

/-- Letters and digits of ASCII. -/
def isAlphanumeric (c : Char) : Bool := c.isAlphanum

/-- The tokens that carry the alphanumeric fragments of a token. The first one also covers the `skipped` positions
before it, and the others follow at distance one. -/
def Token.fragments (t : Token) (skipped : UInt32) : List Token :=
  match Text.runs (fun c => !isAlphanumeric c) t.term.toList with
  | [] => []
  | part :: parts => ⟨String.ofList part, t.increment + skipped⟩ :: parts.map fun p => .next (String.ofList p)

/-- The token in lower case. -/
def Token.lowercased (t : Token) : Token := { t with term := String.ofList (Unicode.lowercaseText t.term.toList) }

/-- The token, after its concatenation with the term before it, if there is one. -/
def Token.paired (t : Token) : Option String → List Token
  | some previous => [⟨previous ++ t.term, 0⟩, t]
  | none => [t]

/-! ## Streams -/

/-- The filters of tokens. -/
inductive TokenFilter where
  /-- Cuts tokens into alphanumeric fragments. -/
  | fragments
  /-- Takes tokens to lower case. -/
  | lowercase
  /-- Adds the concatenation of every two neighbours. -/
  | pairs
deriving DecidableEq, Repr

/-- A source of tokens under a stack of filters, each with what it remembers. -/
inductive Stream where
  /-- The words of a text. -/
  | words (tokens left : List Token)
  /-- A list that is replayed, with the increment that trails it. -/
  | replay (tokens left : List Token) (trailing : UInt32)
  /-- Fragments of a token that are still to come, and the positions skipped before the next one. -/
  | fragments (input : Stream) (pending : List Token) (skipped : UInt32)
  | lowercase (input : Stream)
  /-- The term before, and tokens that are still to come. -/
  | pairs (input : Stream) (previous : Option String) (pending : List Token)
deriving Inhabited

namespace Stream

/-- The tokens of a text's words. -/
def wordTokens (text : String) : List Token :=
  (Unicode.words text.toList).map fun w => .next (String.ofList w)

/-- The words of a text. -/
def ofText (text : String) : Stream := .words (wordTokens text) (wordTokens text)

/-- A list to be replayed. -/
def ofList (tokens : List Token) (trailing : UInt32) : Stream := .replay tokens tokens trailing

/-- A stream under one more filter. -/
def under (s : Stream) : TokenFilter → Stream
  | .fragments => .fragments s [] 0
  | .lowercase => .lowercase s
  | .pairs => .pairs s none []

/-- A source under a stack of filters, the innermost one first. -/
def stacked (source : Stream) (filters : List TokenFilter) : Stream := filters.foldl under source

/-- Feeds tokens to a consumer until it is done or the stream is exhausted. -/
def feed : Stream → {σ ρ : Type} → (σ → Token → Demand σ ρ) → σ → Demand σ ρ × Stream
  | .words tokens left, _, _, f, a =>
    let r := feedList f a left
    (r.1, .words tokens r.2)
  | .replay tokens left trailing, _, _, f, a =>
    let r := feedList f a left
    (r.1, .replay tokens r.2 trailing)
  | .lowercase input, _, _, f, a =>
    let r := input.feed (fun b t => f b t.lowercased) a
    (r.1, .lowercase r.2)
  | .fragments input pending skipped, _, _, f, a =>
    match feedList f a pending with
    | (.done r, rest) => (.done r, .fragments input rest skipped)
    | (.more b, _) =>
      let consume := fun (s : _ × UInt32) (t : Token) =>
        match t.fragments s.2 with
        | [] => Demand.more (s.1, s.2 + t.increment)
        | parts =>
          match feedList f s.1 parts with
          | (.done r, rest) => .done (r, rest)
          | (.more b, _) => .more (b, 0)
      match input.feed consume (b, skipped) with
      | (.done (r, rest), input) => (.done r, .fragments input rest 0)
      | (.more (b, skipped), input) => (.more b, .fragments input [] skipped)
  | .pairs input previous pending, _, _, f, a =>
    match feedList f a pending with
    | (.done r, rest) => (.done r, .pairs input previous rest)
    | (.more b, _) =>
      let consume := fun (s : _ × Option String) (t : Token) =>
        match feedList f s.1 (t.paired s.2) with
        | (.done r, rest) => Demand.done (r, t.term, rest)
        | (.more b, _) => .more (b, some t.term)
      match input.feed consume (b, previous) with
      | (.done (r, term, rest), input) => (.done r, .pairs input (some term) rest)
      | (.more (b, previous), input) => (.more b, .pairs input previous [])

/-- The next token, or none once the stream is exhausted. -/
def next (s : Stream) : Option Token × Stream :=
  match s.feed (fun (_ : Unit) t => Demand.done t) () with
  | (.done t, s) => (some t, s)
  | (.more _, s) => (none, s)

/-- All the tokens that are left. -/
def drain (s : Stream) : List Token × Stream :=
  match s.feed (fun (taken : List Token) t => (Demand.more (t :: taken) : Demand _ Empty)) [] with
  | (.more taken, s) => (taken.reverse, s)

/-- The increment that trails the last token. Positions that fragments skipped are reported once. -/
def finish : Stream → UInt32 × Stream
  | .words tokens left => (0, .words tokens left)
  | .replay tokens left trailing => (trailing, .replay tokens left trailing)
  | .fragments input pending skipped =>
    let r := input.finish
    (r.1 + skipped, .fragments r.2 pending 0)
  | .lowercase input =>
    let r := input.finish
    (r.1, .lowercase r.2)
  | .pairs input previous pending =>
    let r := input.finish
    (r.1, .pairs r.2 previous pending)

/-- The stream as it was before its first token. -/
def reset : Stream → Stream
  | .words tokens _ => .words tokens tokens
  | .replay tokens _ trailing => .replay tokens tokens trailing
  | .fragments input _ _ => .fragments input.reset [] 0
  | .lowercase input => .lowercase input.reset
  | .pairs input _ _ => .pairs input.reset none []

/-- Puts the words of another text under the filters, which keep what they hold. A replayed list stays. -/
def setText (text : String) : Stream → Stream
  | .words _ _ => ofText text
  | .replay tokens left trailing => .replay tokens left trailing
  | .fragments input pending skipped => .fragments (input.setText text) pending skipped
  | .lowercase input => .lowercase (input.setText text)
  | .pairs input previous pending => .pairs (input.setText text) previous pending

end Stream

end DependencyEvidence
