import Rdm.Packet.Checksum

/-! Spans are summed one by one, and both the sum of a span and that of the sums wrap.
However often they do, what comes out is the exact sum of all bytes modulo 2^16
(`toNat_sumSpans`), whatever the order of the bytes (`sumSpans_eq_of_perm`). What is
sent in spans with their sum behind them verifies in one piece (`verify_spans_iff`). -/
namespace Rdm.Checksum

variable {first second : Bytes} {spans other : List Bytes}

theorem exactSum_eq_of_perm (permuted : first.Perm second) : exactSum first = exactSum second := by
  induction permuted with
  | nil => rfl
  | cons byte _ ih => rw [exactSum, exactSum, ih]
  | swap => exact Nat.add_left_comm _ _ _
  | trans _ _ ih ihNext => exact ih.trans ihNext

theorem toNat_sumSpans (spans : List Bytes) :
    (sumSpans spans).toNat = exactSum spans.flatten % 65536 := by
  rw [sumSpans_eq_sum_flatten, toNat_sum]

/-- Spans with the same bytes have the same sum, cut and ordered as they may be. -/
theorem sumSpans_eq_of_perm (permuted : spans.flatten.Perm other.flatten) :
    sumSpans spans = sumSpans other := by
  apply UInt16.toNat_inj.1
  rw [toNat_sumSpans, toNat_sumSpans, exactSum_eq_of_perm permuted]

/-- Spans with their sum behind them verify, unless they are too short for a header. -/
theorem verify_spans_iff (spans : List Bytes) :
    verify (spans.flatten ++ toBytes (sumSpans spans)) = true ↔
      Packet.headerSize ≤ spans.flatten.length := by
  constructor
  · intro verified
    have size : ¬ (spans.flatten ++ toBytes (sumSpans spans)).length < Packet.minSize := by
      intro short
      rw [verify_eq_false_of_length_lt short] at verified
      contradiction
    rw [List.length_append, length_toBytes, Packet.minSize] at size
    omega
  · intro size
    rw [sumSpans_eq_sum_flatten]
    exact verify_append_toBytes size

/-- Spans sum up to what they sum up to in one piece, which is the exact sum of their bytes modulo
2^16. Hence it does not matter where a packet is cut into spans, nor in which order they come; and
what is sent in spans with their sum behind them verifies in one piece. -/
theorem pieces_sum_to_whole :
    (∀ spans : List Bytes,
      sumSpans spans = sum spans.flatten ∧
        (sumSpans spans).toNat = exactSum spans.flatten % 65536) ∧
    (∀ spans cut : List Bytes, spans.flatten = cut.flatten → sumSpans spans = sumSpans cut) ∧
    (∀ spans exchanged : List Bytes,
      spans.Perm exchanged → sumSpans spans = sumSpans exchanged) ∧
    ∀ spans : List Bytes,
      verify (spans.flatten ++ toBytes (sumSpans spans)) = true ↔
        Packet.headerSize ≤ spans.flatten.length := by
  refine ⟨?whole, ?cut, ?exchanged, verify_spans_iff⟩
  case whole =>
    intro spans
    exact ⟨sumSpans_eq_sum_flatten spans, toNat_sumSpans spans⟩
  case cut =>
    intro spans cut same
    exact sumSpans_eq_of_perm (List.Perm.of_eq same)
  case exchanged =>
    intro spans exchanged permuted
    exact sumSpans_eq_of_perm permuted.flatten

/-- A thousand bytes, whose sum wraps three times: in one piece, in three of which one is empty, and
in these in another order. -/
theorem pieces_sum_to_whole_wrapped :
    let front : Bytes := List.replicate 600 0xFF
    let back : Bytes := List.replicate 400 0x80
    [front, [], back].flatten = [front ++ back].flatten ∧
      [front, [], back].Perm [back, front, []] ∧
      (sumSpans [front ++ back]).toNat = 7592 ∧
      sumSpans [front, [], back] = sumSpans [front ++ back] ∧
      sumSpans [front, [], back] = sumSpans [back, front, []] := by
  intro front back
  obtain ⟨whole, cut, exchanged, _⟩ := pieces_sum_to_whole
  have same : [front, [], back].flatten = [front ++ back].flatten := by simp
  have permuted : ([front, []] ++ [back]).Perm ([back] ++ [front, []]) := List.perm_append_comm
  have total : exactSum [front ++ back].flatten = 3 * 65536 + 7592 := by decide +kernel
  refine ⟨same, permuted, ?_, cut _ _ same, exchanged _ _ permuted⟩
  rw [(whole _).2, total]

end Rdm.Checksum
