import CameraScript.Proofs.Timeline

/-!
# Timelines of the first keyframes

How the timeline of the first keyframes of a track relates to that of the whole track. Ticks are
claimed from the front, so what comes later takes nothing away. But the last frame of a track is no
hard cut, and the frame at which the first part ends may be one in the whole track.

* `isCut_take_iff`: the cuts of the first frames.
* `Pass.claims_take_iff`: the first offers for their ticks are the same.
* `Pass.awaited_iff_take`: which offers are reached without easing in the whole track only.
* `Timeline.ofFrames_take_agrees`: the samples of the two timelines.
-/

namespace CameraScript

variable {timebase : Timebase} {frames : List UInt32} {t : UInt32} {i j k : Nat}

theorem isCut_take_iff : IsCut (frames.take k) j ↔ IsCut frames j ∧ j + 1 < k := by
  unfold IsCut
  simp only [List.getElem_take, List.length_take]
  constructor
  · rintro ⟨hpos, hlt, hnext⟩
    exact ⟨⟨hpos, by omega, hnext⟩, by omega⟩
  · rintro ⟨⟨hpos, hlt, hnext⟩, hk⟩
    exact ⟨hpos, by omega, hnext⟩

namespace Pass

theorem tickAt_take_iff :
    TickAt (offersOf timebase (frames.take k)) i t ↔
      TickAt (offersOf timebase frames) i t ∧ i < k := by
  rw [tickAt_offersOf_iff, tickAt_offersOf_iff]
  simp only [List.getElem_take, List.length_take]
  constructor
  · rintro ⟨hlt, htick⟩
    exact ⟨⟨by omega, htick⟩, by omega⟩
  · rintro ⟨⟨hlt, htick⟩, hk⟩
    exact ⟨by omega, htick⟩

theorem cutAt_take_iff :
    CutAt (offersOf timebase (frames.take k)) j ↔
      CutAt (offersOf timebase frames) j ∧ j + 1 < k := by
  rw [cutAt_offersOf_iff, cutAt_offersOf_iff, isCut_take_iff]

theorem claims_take_iff :
    Claims (offersOf timebase (frames.take k)) t i ↔
      Claims (offersOf timebase frames) t i ∧ i < k := by
  unfold Claims
  simp only [tickAt_take_iff]
  constructor
  · rintro ⟨⟨htick, hk⟩, hfirst⟩
    exact ⟨⟨htick, fun j hj ht => hfirst j hj ⟨ht, by omega⟩⟩, hk⟩
  · rintro ⟨⟨htick, hfirst⟩, hk⟩
    exact ⟨⟨htick, hk⟩, fun j hj ht => hfirst j hj ht.1⟩

/-- Only the cut at which the first frames end is missing among them. -/
theorem awaited_iff_take (hi : i < k) :
    Awaited (offersOf timebase frames) i ↔
      Awaited (offersOf timebase (frames.take k)) i ∨ (i + 1 = k ∧ IsCut frames i) := by
  unfold Awaited
  simp only [cutAt_take_iff, claims_take_iff]
  constructor
  · rintro ⟨j, hcut, hj, hlast⟩
    by_cases hk : j + 1 < k
    · exact .inl ⟨j, ⟨hcut, hk⟩, hj, fun t q hq => hlast t q hq.1⟩
    · obtain rfl : j = i := by omega
      exact .inr ⟨by omega, cutAt_offersOf_iff.1 hcut⟩
  · rintro (⟨j, hcut, hj, hlast⟩ | ⟨-, hcut⟩)
    · exact ⟨j, hcut.1, hj, fun t q hq hqi => hlast t q ⟨hq, by omega⟩ hqi⟩
    · exact ⟨i, cutAt_offersOf_iff.2 hcut, Nat.le_refl i, fun t q _ hqi => hqi⟩

end Pass

namespace Timeline

/-- **The timeline of the first frames.** Each of its samples is a sample of the timeline of all
frames, at the same position. Both are reached in the same way, unless the sample is the last of
the first frames and a hard cut, which only the frame behind it shows: then easing is suppressed in
the timeline of all frames. The samples of the other ticks of that timeline are behind the first
frames. -/
theorem ofFrames_take_agrees (timebase : Timebase) (frames : List UInt32) (k : Nat) :
    (∀ (t : UInt32) (sample : Sample),
      (ofFrames timebase (frames.take k))[t]? = some sample →
      sample.index < k ∧
      ∃ sample' : Sample, (ofFrames timebase frames)[t]? = some sample' ∧
        sample'.index = sample.index ∧
        (sample.index + 1 < k → sample'.suppressEasing = sample.suppressEasing) ∧
        (sample.index + 1 = k →
          (¬ IsCut frames sample.index → sample'.suppressEasing = sample.suppressEasing) ∧
          (IsCut frames sample.index → sample'.suppressEasing = true))) ∧
    ∀ (t : UInt32) (sample' : Sample), (ofFrames timebase frames)[t]? = some sample' →
      t ∉ ofFrames timebase (frames.take k) → k ≤ sample'.index := by
  refine ⟨fun t sample hs => ?_, fun t sample' hs' hnew => ?_⟩
  · obtain ⟨hclaims, hsuppress⟩ := getElem?_ofFrames_eq_some_iff.1 hs
    obtain ⟨hclaims', hk⟩ := Pass.claims_take_iff.1 hclaims
    obtain ⟨sample', hs', hindex⟩ := exists_sample_of_claims hclaims'
    have hawaited : sample'.suppressEasing = true ↔
        sample.suppressEasing = true ∨ (sample.index + 1 = k ∧ IsCut frames sample.index) := by
      rw [(getElem?_ofFrames_eq_some_iff.1 hs').2, hindex, Pass.awaited_iff_take hk, hsuppress]
    refine ⟨hk, sample', hs', hindex, fun hbefore => ?_,
      fun hlast => ⟨fun hcut => ?_, fun hcut => ?_⟩⟩
    · rw [Bool.eq_iff_iff, hawaited]
      exact or_iff_left fun h => Nat.ne_of_lt hbefore h.1
    · rw [Bool.eq_iff_iff, hawaited]
      exact or_iff_left fun h => hcut h.2
    · exact hawaited.2 (.inr ⟨hlast, hcut⟩)
  · by_contra hlt
    have hclaims := (getElem?_ofFrames_eq_some_iff.1 hs').1
    obtain ⟨sample, hs, -⟩ :=
      exists_sample_of_claims (Pass.claims_take_iff.2 ⟨hclaims, Nat.lt_of_not_le hlt⟩)
    exact hnew (Std.TreeMap.mem_iff_isSome_getElem?.2 (Option.isSome_iff_exists.2 ⟨sample, hs⟩))

/-- Frame 11 is no cut until there is a frame behind it. -/
theorem ofFrames_take_agrees_hardCut :
    (ofFrames {} [0, 10, 11])[(7 : UInt32)]? = some ⟨2, false⟩ ∧
      (ofFrames {} [0, 10, 11, 20])[(7 : UInt32)]? = some ⟨2, true⟩ := by
  have hs : (ofFrames {} [0, 10, 11])[(7 : UInt32)]? = some ⟨2, false⟩ := by decide +kernel
  obtain ⟨-, ⟨index, suppressEasing⟩, hs', hindex, -, hlast⟩ :=
    (ofFrames_take_agrees {} [0, 10, 11, 20] 3).1 7 ⟨2, false⟩ hs
  obtain rfl : index = 2 := hindex
  obtain rfl : suppressEasing = true := (hlast rfl).2 ⟨by decide, by decide, rfl⟩
  exact ⟨hs, hs'⟩

end Timeline

end CameraScript
