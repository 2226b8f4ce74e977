import Viva.Proofs.Text.Lossy

/-! # Characters cut between reads

A reader decodes each read as it comes and holds back the bytes of a character that is cut off.
`FrameReader.heard` is the text it has decoded so far, which its records and its open text are made
of. After any reads that text is the lossy text of the bytes received, without those held back.
-/

namespace Viva.FrameReader

open Text.Utf8

/-- The text that some reads add, one read after the other. -/
def heard (reader : FrameReader) : List (List UInt8) → List Char
  | [] => []
  | bytes :: rest => (decode reader.begun bytes).1 ++ heard (reader.feed bytes).2 rest

/-- The reads decode like the one read that joins them. -/
theorem decode_flatten (reader : FrameReader) (reads : List (List UInt8)) :
    decode reader.begun reads.flatten = (reader.heard reads, (reader.feedAll reads).2.begun) := by
  induction reads generalizing reader with
  | nil => rfl
  | cons bytes rest ih =>
      have here : (reader.feed bytes).2.begun = (decode reader.begun bytes).2 := rfl
      rw [List.flatten_cons, decode_append, ← here, ih]
      rfl

/-- The records are read off the text heard, and what is left of it is the open text. -/
theorem feedAll_eq_parse (reads : List (List UInt8)) :
    (({} : FrameReader).feedAll reads).1 = (Frame.parse (({} : FrameReader).heard reads)).1 ∧
      (({} : FrameReader).feedAll reads).2.text =
        (Frame.parse (({} : FrameReader).heard reads)).2 := by
  have text := congrArg Prod.fst (decode_flatten {} reads)
  rw [feedAll_eq_feed_flatten]
  simp only at text
  simp [feed, text]

/-- After any reads, the bytes held back start a character and are at most three, and the text heard
    is the lossy text of the bytes before them. So the characters of a text are heard as they are,
    wherever its bytes are cut. The next read is decoded in a bounded number of rounds, and to one
    result only. -/
theorem feedAll_lossy (reads : List (List UInt8)) :
    let reader : FrameReader := (FrameReader.feedAll {} reads).2
    let text : List Char := FrameReader.heard {} reads
    (FrameReader.feedAll {} reads).1 = (Frame.parse text).1 ∧
    reader.text = (Frame.parse text).2 ∧
    Unfinished reader.begun ∧ reader.begun.length ≤ 3 ∧
    (∃ settled, reads.flatten = settled ++ reader.begun ∧ Lossy settled text ∧
      text = (lossy settled).toList) ∧
    (∀ s : String, reads.flatten <+: encode s → text <+: s.toList) ∧
    (∀ s : String, reads.flatten = encode s → text = s.toList ∧ reader.begun = []) ∧
    ∀ next, let fed : List Char × List UInt8 :=
        ((decode reader.begun next).1, (reader.feed next).2.begun)
      (∃ n ≤ (reader.begun ++ next).length + 1, Rounds n (reader.begun ++ next) fed.1 fed.2) ∧
        ∀ n more begun, Rounds n (reader.begun ++ next) more begun → (more, begun) = fed := by
  intro reader text
  have decoded : decode [] reads.flatten = (text, reader.begun) := decode_flatten {} reads
  obtain ⟨n, _, rounds⟩ := unfinished_nil.rounds reads.flatten
  rw [List.nil_append, decoded] at rounds
  obtain ⟨unfinished, settled, all, lossy⟩ := rounds.settled
  refine ⟨(feedAll_eq_parse reads).1, (feedAll_eq_parse reads).2, unfinished,
    unfinished.length_le, ⟨settled, all, lossy, lossy_iff.mp lossy⟩, ?_, ?_, ?_⟩
  · rintro s ⟨more, all⟩
    have whole := decode_encode s
    rw [← all, decode_append, decoded, Prod.mk.injEq] at whole
    exact ⟨_, whole.1⟩
  · intro s all
    have whole := decode_encode s
    rw [← all, decoded, Prod.mk.injEq] at whole
    exact whole
  · intro next fed
    have here : decode [] (reader.begun ++ next) = fed := unfinished.decode_append next
    constructor
    · have ends := unfinished.rounds next
      rwa [here] at ends
    · intro n more begun other
      rw [← here]
      exact other.decode_eq.symm

/-- A character of two bytes, cut between them. -/
theorem feedAll_lossy_cut :
    [[0xC3], [0xA9]].flatten = encode "é" ∧
      ({} : FrameReader).heard [[0xC3], [0xA9]] = "é".toList := by
  have bytes : [[0xC3], [0xA9]].flatten = encode "é" := by
    rw [show "é" = String.ofList ['é'] from rfl, encode_ofList]
    decide
  exact ⟨bytes, ((feedAll_lossy [[0xC3], [0xA9]]).2.2.2.2.2.2.1 "é" bytes).1⟩

end Viva.FrameReader
