import DependencyEvidence.Proofs.Text.Calls

/-!
# Streams that start over

A stream can be asked to start over, and another text can be put under its filters while these still hold tokens. So it
gets requests of four kinds, in any order (`Request`), and answers each (`Stream.serve`).

No request takes a filter away or adds one (`Stream.filters_afterRequest`), and the source is changed by another text
only (`Stream.origin_afterRequest`). Starting over forgets all the rest (`Stream.reset_eq`), so that a stream that has
served any requests is then the one that is built anew over the last text (`serve_reset`).
-/

namespace DependencyEvidence

/-! ## Requests -/

/-- What a stream may be asked, at any time. -/
inductive Request where
  /-- For the next token, or for the increment that trails the last one. -/
  | call (c : Call)
  /-- To start over. -/
  | reset
  /-- To go on with the words of another text. -/
  | setText (text : String)
deriving DecidableEq, Repr

/-- What a stream answers. -/
inductive Answer where
  | token (t : Option Token)
  | trailing (increment : UInt32)
  | done
deriving DecidableEq, Repr

namespace Stream

/-- The answer to a request. -/
def answer (s : Stream) : Request → Answer
  | .call .next => .token s.next.1
  | .call .finish => .trailing s.finish.1
  | .reset => .done
  | .setText _ => .done

/-- The stream that a request leaves. -/
def afterRequest (s : Stream) : Request → Stream
  | .call c => s.afterCall c
  | .reset => s.reset
  | .setText text => s.setText text

/-- The answers to requests, one after another, and the stream that they leave. -/
def serve (s : Stream) : List Request → List Answer × Stream
  | [] => ([], s)
  | r :: rest => (s.answer r :: ((s.afterRequest r).serve rest).1, ((s.afterRequest r).serve rest).2)

theorem serve_snd (s : Stream) (requests : List Request) :
    (s.serve requests).2 = requests.foldl afterRequest s := by
  induction requests generalizing s with
  | nil => rfl
  | cons r rest ih => exact ih (s.afterRequest r)

end Stream

/-! ## Sources -/

/-- What filters may stand over: the words of a text, or a list that is replayed. -/
inductive Source where
  | text (text : String)
  | list (tokens : List Token) (trailing : UInt32)
deriving DecidableEq, Repr

namespace Source

/-- The source as a stream before its first token. -/
def stream : Source → Stream
  | text t => .ofText t
  | list tokens trailing => .ofList tokens trailing

/-- The source with another text. A list stays. -/
def setText (t : String) : Source → Source
  | text _ => text t
  | list tokens trailing => list tokens trailing

end Source

/-- The text that a request brings. -/
def Request.text? : Request → Option String
  | setText text => some text
  | _ => none

/-- The last text that requests bring. -/
def lastText? (requests : List Request) : Option String := (requests.filterMap Request.text?).getLast?

/-- The source with the last text that requests bring, if they bring one. -/
def Source.after (source : Source) (requests : List Request) : Source :=
  (lastText? requests).elim source source.setText

namespace Source

/-- Of two texts that come to a source, the later one counts. -/
theorem setText_after (source : Source) (requests : List Request) (t : String) :
    (source.after requests).stream.setText t = (source.setText t).stream := by
  rw [after]
  cases lastText? requests <;> cases source <;> rfl

theorem after_concat (source : Source) (requests : List Request) (r : Request) :
    (source.after (requests ++ [r])).stream =
      r.text?.elim (source.after requests).stream ((source.after requests).stream.setText ·) := by
  cases htext : r.text? with
  | none => simp [after, lastText?, htext]
  | some t => simp [after, lastText?, htext, ← setText_after source requests]

end Source

/-! ## What requests leave as it was -/

namespace Stream

theorem reset_snd (s : Stream) : s.reset.filters = s.filters ∧ s.reset.origin = s.origin := by
  have horigin : s.origin.filters = [] ∧ s.origin.origin = s.origin := by
    induction s with
    | words tokens left => exact ⟨rfl, rfl⟩
    | replay tokens left trailing => exact ⟨rfl, rfl⟩
    | fragments input pending skipped ih => exact ih
    | lowercase input ih => exact ih
    | pairs input previous pending ih => exact ih
  rw [reset_eq, (filters_stacked _ _).1, (filters_stacked _ _).2, horigin.1]
  exact ⟨rfl, horigin.2⟩

theorem setText_snd (text : String) (s : Stream) :
    (s.setText text).filters = s.filters ∧ (s.setText text).origin = s.origin.setText text := by
  induction s with
  | words tokens left => exact ⟨rfl, rfl⟩
  | replay tokens left trailing => exact ⟨rfl, rfl⟩
  | fragments input pending skipped ih => exact ⟨congrArg (· ++ _) ih.1, ih.2⟩
  | lowercase input ih => exact ⟨congrArg (· ++ _) ih.1, ih.2⟩
  | pairs input previous pending ih => exact ⟨congrArg (· ++ _) ih.1, ih.2⟩

/-- No request changes which filters there are. -/
theorem filters_afterRequest (s : Stream) (r : Request) : (s.afterRequest r).filters = s.filters := by
  rcases r with ⟨_ | _⟩ | _ | text
  · exact (fed_next s).filters
  · exact (finish_snd s).2.2.2
  · exact (reset_snd s).1
  · exact (setText_snd text s).1

/-- Only another text changes the source. -/
theorem origin_afterRequest (s : Stream) (r : Request) :
    (s.afterRequest r).origin = r.text?.elim s.origin (s.origin.setText ·) := by
  rcases r with ⟨_ | _⟩ | _ | text
  · exact (fed_next s).origin
  · exact (finish_snd s).2.2.1
  · exact (reset_snd s).2
  · exact (setText_snd text s).2

end Stream

/-- A run of requests leaves the filters, and the source with the last text. -/
theorem serve_leaves (source : Source) (filters : List TokenFilter) (requests : List Request) :
    ((source.stream.stacked filters).serve requests).2.filters = filters ∧
      ((source.stream.stacked filters).serve requests).2.origin = (source.after requests).stream := by
  rw [Stream.serve_snd]
  induction requests using List.reverseRecOn with
  | nil =>
    obtain ⟨hfilters, horigin⟩ := Stream.filters_stacked source.stream filters
    refine ⟨hfilters.trans ?_, horigin.trans ?_⟩ <;> cases source <;> rfl
  | append_singleton requests r ih =>
    obtain ⟨hfilters, horigin⟩ := ih
    rw [List.foldl_append, List.foldl_cons, List.foldl_nil, Stream.filters_afterRequest,
      Stream.origin_afterRequest, hfilters, horigin, Source.after_concat]
    exact ⟨rfl, rfl⟩

/-- **Starting over leaves nothing of what was.** -/
theorem serve_reset (source : Source) (filters : List TokenFilter) (requests : List Request) :
    ((source.stream.stacked filters).serve requests).2.reset = (source.after requests).stream.stacked filters := by
  obtain ⟨hfilters, horigin⟩ := serve_leaves source filters requests
  rw [Stream.reset_eq, hfilters, horigin]

/-- A stream that starts over, whatever it has been asked before, goes on like one that is built anew: over the last
text that it was given, all later requests have the same answers, and leave the same stream. -/
theorem serve_after_reset (source : Source) (filters : List TokenFilter) (requests later : List Request) :
    ((source.stream.stacked filters).serve requests).2.reset.serve later =
      ((source.after requests).stream.stacked filters).serve later := by
  rw [serve_reset]

/-- Another text alone leaves the filters what they hold; starting over does not. -/
example : (((Source.text "ab-cd").stream.stacked [.fragments, .pairs]).serve
      [.call .next, .setText "x", .call .next, .reset, .call .next]).1 =
    [.token (some ⟨"ab", 1⟩), .done, .token (some ⟨"abcd", 0⟩), .done, .token (some ⟨"x", 1⟩)] := by
  decide +kernel

end DependencyEvidence
