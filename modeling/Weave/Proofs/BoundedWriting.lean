import Weave.Proofs.Streaming

/-!
Conversion into an output that takes a limited number of bytes. Such an output cannot tell texts that
are written one after the other from their concatenation, so it holds the first bytes of the whole
document wherever the limit falls: between blocks, within a fence or within a character. The run
stops at the first refusal, and otherwise ends as it does when the segments are collected.
-/

namespace Weave

namespace BoundedOutput

variable {failsFlush : Bool} {written : Array UInt8}

theorem writeBytes_unbounded (bytes : Bytes) :
    writeBytes ⟨none, failsFlush, written⟩ bytes = (⟨none, failsFlush, written ++ bytes⟩, .ok ()) := rfl

theorem writeBytes_bounded (most : Nat) (bytes : Bytes) :
    writeBytes ⟨some most, failsFlush, written⟩ bytes =
      (⟨some most, failsFlush, written ++ bytes.take (most - written.size)⟩,
        if bytes.length ≤ most - written.size then .ok () else .error .limitReached) := rfl

/-- Bytes that are written in two parts are taken as if they were written at once. -/
theorem writeBytes_append (out : BoundedOutput) (front rest : Bytes) :
    out.writeBytes (front ++ rest) =
      match out.writeBytes front with
      | (out, .ok ()) => out.writeBytes rest
      | (out, .error fault) => (out, .error fault) := by
  obtain ⟨limit, failsFlush, written⟩ := out
  have written_append (xs ys : Bytes) : written ++ (xs ++ ys) = written ++ xs ++ ys :=
    Array.ext' (by simp)
  cases limit with
  | none => simp only [writeBytes_unbounded, written_append]
  | some most =>
    simp only [writeBytes_bounded]
    by_cases fits : front.length ≤ most - written.size
    · -- What is left of the room is what the second part may take.
      have room : most - (written ++ front).size = most - written.size - front.length := by
        rw [← Array.length_toList, Array.toList_appendList, List.length_append, Array.length_toList]
        omega
      have taken : (front ++ rest).take (most - written.size) =
          front ++ rest.take (most - written.size - front.length) := by
        rw [List.take_append, List.take_of_length_le fits]
      have whole : (front ++ rest).length ≤ most - written.size ↔
          rest.length ≤ most - written.size - front.length := by
        rw [List.length_append]
        omega
      simp only [if_pos fits, List.take_of_length_le fits, writeBytes_bounded, room, taken, whole,
        written_append]
    · have within : (front ++ rest).take (most - written.size) = front.take (most - written.size) := by
        rw [List.take_append_of_le_length (by omega)]
      have exceeds : ¬ (front ++ rest).length ≤ most - written.size := by
        rw [List.length_append]
        omega
      simp only [if_neg fits, if_neg exceeds, within]

/-- Texts that are written one after the other are taken as if they were written at once. -/
theorem writeAll_eq_writeBytes (out : BoundedOutput) (texts : List Text) :
    Output.writeAll out texts = out.writeBytes (Utf8.encode texts.flatten) := by
  induction texts generalizing out with
  | nil =>
    rcases out with ⟨_ | most, failsFlush, written⟩ <;> simp [Output.writeAll, writeBytes]
  | cons text more ih =>
    have step : Output.write out text = out.writeBytes (Utf8.encode text) := rfl
    rw [Output.writeAll, List.flatten_cons, Utf8.encode_append, writeBytes_append, step]
    rcases out.writeBytes (Utf8.encode text) with ⟨next, _ | _⟩
    · rfl
    · exact ih next

end BoundedOutput

/-- A fresh output holds as much of the bytes as it may, and refuses exactly if that is not all. -/
theorem BoundedOutput.writeBytes_fresh (limit : Option Nat) (failsFlush : Bool) (bytes : Bytes) :
    ∃ out outcome, writeBytes { limit, failsFlush } bytes = (out, outcome) ∧
      out.failsFlush = failsFlush ∧ out.written.toList = limit.elim bytes bytes.take ∧
      ((outcome = .ok () ∧ ∀ most ∈ limit, bytes.length ≤ most) ∨
        (outcome = .error .limitReached ∧ ∃ most ∈ limit, most < bytes.length)) := by
  cases limit with
  | none => exact ⟨_, _, writeBytes_unbounded bytes, rfl, by simp, .inl ⟨rfl, by simp⟩⟩
  | some most =>
    refine ⟨_, _, writeBytes_bounded most bytes, rfl, by simp, ?_⟩
    by_cases fits : bytes.length ≤ most
    · exact .inl ⟨if_pos fits, by simpa using fits⟩
    · exact .inr ⟨if_neg fits, most, rfl, Nat.lt_of_not_le fits⟩

/-- The bytes that emitting the segments leaves in an output that takes any number of them. -/
def Document.bytes (fenceLang : Text) (segments : List Segment) : Bytes :=
  (Sink.acceptAll ({ output := {}, fenceLang } : Emitter BoundedOutput) segments).1.output.written.toList

theorem Document.bytes_eq_encode (fenceLang : Text) (segments : List Segment) :
    bytes fenceLang segments = Utf8.encode (render fenceLang segments) := by
  obtain ⟨blocks, emitted, -⟩ :=
    Emitter.acceptAll_eq_writeAll ({ output := {}, fenceLang } : Emitter BoundedOutput) segments
  rw [bytes, emitted, BoundedOutput.writeAll_eq_writeBytes, flatten_writes,
    BoundedOutput.writeBytes_unbounded]
  simp

/-- Emitting segments to a fresh output leaves as much of their document as it may hold. -/
theorem Emitter.acceptAll_bounded (limit : Option Nat) (failsFlush : Bool) (fenceLang : Text)
    (segments : List Segment) :
    ∃ e outcome,
      Sink.acceptAll ({ output := { limit, failsFlush }, fenceLang } : Emitter BoundedOutput)
        segments = (e, outcome) ∧
      e.output.failsFlush = failsFlush ∧
      e.output.written.toList =
        limit.elim (Document.bytes fenceLang segments) (Document.bytes fenceLang segments).take ∧
      ((outcome = .ok () ∧ e.blocks = (Document.written segments).length ∧
          ∀ most ∈ limit, (Document.bytes fenceLang segments).length ≤ most) ∨
        (outcome = .error (.output .limitReached) ∧
          ∃ most ∈ limit, most < (Document.bytes fenceLang segments).length)) := by
  obtain ⟨blocks, emitted, counted⟩ := Emitter.acceptAll_eq_writeAll
    ({ output := { limit, failsFlush }, fenceLang } : Emitter BoundedOutput) segments
  rw [BoundedOutput.writeAll_eq_writeBytes, Document.flatten_writes, ← Document.bytes_eq_encode]
    at emitted counted
  obtain ⟨out, outcome, wrote, flushing, held, fits | exceeds⟩ :=
    BoundedOutput.writeBytes_fresh limit failsFlush (Document.bytes fenceLang segments)
  · rw [wrote] at emitted counted
    refine ⟨_, _, emitted, flushing, held, .inl ⟨?_, ?_, fits.2⟩⟩
    · rw [fits.1]
      rfl
    · rw [counted fits.1]
      exact Nat.zero_add _
  · rw [wrote] at emitted
    refine ⟨_, _, emitted, flushing, held, .inr ⟨?_, exceeds.2⟩⟩
    rw [exceeds.1]
    rfl

/-- A run whose sink takes everything fails only at a template literal that the source does not
end. -/
theorem Segmenter.collect_outcome (source : Text) (policy : UnterminatedPolicy) :
    (collect source policy).2 = .ok () ∨
      ∃ offset position,
        (collect source policy).2 = .error (.unterminatedTemplate offset position) := by
  rcases (Scanner.placed_ofSource source).laid.ending with
    closed | ⟨before, p, pieces, closed, broken, -⟩
  · obtain ⟨g, ran, -⟩ := collect_ok source policy (.inl closed)
    exact .inl (congrArg Prod.snd ran)
  · cases policy with
    | truncate =>
      obtain ⟨g, ran, -⟩ := collect_ok source .truncate (.inr rfl)
      exact .inl (congrArg Prod.snd ran)
    | fail =>
      obtain ⟨g, failed, -⟩ := collect_fails source pieces closed broken
      exact .inr ⟨_, _, congrArg Prod.snd failed⟩

/-- What a conversion into a bounded output comes to when the run that collects the segments of the
source hands over `handed` and ends as `outcome`, with the diagnostics `noted`. -/
structure DeliversUpTo (options : ConversionOptions) (output : BoundedOutput)
    (handed : List Segment) (noted : List Diagnostic) (outcome : Except ConversionError Unit)
    (converted : BoundedOutput × Except ConversionError ConversionReport) : Prop where
  /-- The output holds as many of the first bytes of the document as it may. -/
  written : converted.1.written.toList =
    output.limit.elim (Document.bytes options.fenceLang handed)
      (Document.bytes options.fenceLang handed).take
  refused : converted.2 = .error (.output .limitReached) ↔
    ∃ most ∈ output.limit, most < (Document.bytes options.fenceLang handed).length
  /-- Where the document fits, a template literal without end is reported as in any run. -/
  failed : (∀ most ∈ output.limit, (Document.bytes options.fenceLang handed).length ≤ most) →
    ∀ e, outcome = .error e →
      converted.2 = .error e ∧ ∃ offset position, e = .unterminatedTemplate offset position
  /-- Where the document fits and is complete, all depends on whether it can be passed on. -/
  completed : (∀ most ∈ output.limit, (Document.bytes options.fenceLang handed).length ≤ most) →
    outcome = .ok () →
      converted.2 =
        if output.failsFlush then .error (.output .flushFailed)
        else .ok { blocks := (Document.written handed).length, diagnostics := noted }

/-- Converting into a writer comes to the same as segmenting first and emitting afterwards, whatever
the number of bytes that the writer takes and whether or not it can be flushed. -/
theorem conversion_delivers_up_to (source : Text) (options : ConversionOptions) (limit : Option Nat)
    (failsFlush : Bool) :
    DeliversUpTo options { limit, failsFlush }
      (Segmenter.collect source options.unterminated).1.sink.accepted.toList
      (Segmenter.collect source options.unterminated).1.diagnostics.toList
      (Segmenter.collect source options.unterminated).2
      (convertTo source options ({ limit, failsFlush } : BoundedOutput)) := by
  have outcomes := Segmenter.collect_outcome source options.unterminated
  rw [convertTo_eq]
  generalize Segmenter.collect source options.unterminated = run at outcomes ⊢
  obtain ⟨c, outcome⟩ := run
  obtain ⟨e, emission, emitted, flushing, held, fits | exceeds⟩ :=
    Emitter.acceptAll_bounded limit failsFlush options.fenceLang c.sink.accepted.toList
  · obtain ⟨rfl, counted, room⟩ := fits
    have none_over : ¬ ∃ most ∈ limit,
        most < (Document.bytes options.fenceLang c.sink.accepted.toList).length := by
      rintro ⟨most, given, short⟩
      exact Nat.not_lt.mpr (room most given) short
    rw [emitted]
    dsimp only
    rcases outcomes with complete | ⟨offset, position, unclosed⟩
    · obtain rfl : outcome = .ok () := complete
      cases failsFlush with
      | true =>
        simp only [Output.flush, flushing, ↓reduceIte]
        refine ⟨held, ?_, fun _ _ => nofun, fun _ _ => rfl⟩
        simpa using none_over
      | false =>
        simp only [Output.flush, flushing, Bool.false_eq_true, ↓reduceIte]
        refine ⟨held, ?_, fun _ _ => nofun, fun _ _ => ?_⟩
        · simpa using none_over
        · rw [counted]
          rfl
    · obtain rfl : outcome = .error (.unterminatedTemplate offset position) := unclosed
      refine ⟨held, ?_, fun _ e failed => ?_, fun _ => nofun⟩
      · simpa using none_over
      · cases failed
        exact ⟨rfl, offset, position, rfl⟩
  · obtain ⟨rfl, most, given, short⟩ := exceeds
    have no_room : ¬ ∀ most ∈ limit,
        (Document.bytes options.fenceLang c.sink.accepted.toList).length ≤ most := fun room =>
      Nat.not_lt.mpr (room most given) short
    rw [emitted]
    exact ⟨held, ⟨fun _ => ⟨most, given, short⟩, fun _ => rfl⟩, fun room => absurd room no_room,
      fun room => absurd room no_room⟩

-- The limit falls within the first character, before the template without end is reached.
example :
    (convertTo "/*é*/`$\x7b".toList {} ({ limit := some 1 } : BoundedOutput)).1.written =
      #[0xc3] := by
  decide +kernel

end Weave
