import CameraScript.Timeline
import Mathlib.Data.List.Induction
import Mathlib.Order.Bounds.Basic

/-!
# Which keyframe plays a tick, and how it is reached

A pass over the keyframes carries two things: the samples so far and whether a hard cut is
still to be paid for. Both have a description that does not mention the pass.

* `Pass.Claims`: the first offer of a tick. It is the one that is sampled.
* `Pass.Awaited`: an offer that is reached without easing. There is a hard cut that is not
  before it and behind the last claim before it.
* `Pass.tracks_run`: the pass keeps exactly these claims, and is pending exactly where a
  cut is behind the last claim. `Pass.Tracks.offer` is the step.
* `Timeline.ofFrames_spec`: the timeline of a list of frames.
-/

namespace CameraScript

namespace Pass

/-! ## Offers -/

section Offers

variable {offers : List (UInt32 × Bool)} {tick t : UInt32} {cut : Bool} {i j : Nat}

/-- The offer at `i` is for `tick`. -/
def TickAt (offers : List (UInt32 × Bool)) (i : Nat) (tick : UInt32) : Prop :=
  ∃ cut, offers[i]? = some (tick, cut)

/-- The offer at `j` is a hard cut. -/
def CutAt (offers : List (UInt32 × Bool)) (j : Nat) : Prop :=
  ∃ tick, offers[j]? = some (tick, true)

/-- The offer at `i` is the first one for `tick`. -/
def Claims (offers : List (UInt32 × Bool)) (tick : UInt32) (i : Nat) : Prop :=
  TickAt offers i tick ∧ ∀ j < i, ¬ TickAt offers j tick

/-- There is a cut at or before `i` and behind all claims before `i`. -/
def Awaited (offers : List (UInt32 × Bool)) (i : Nat) : Prop :=
  ∃ j, CutAt offers j ∧ j ≤ i ∧ ∀ t q, Claims offers t q → q < i → q < j

/-- There is a cut behind all claims. -/
def CutPending (offers : List (UInt32 × Bool)) : Prop :=
  ∃ j, CutAt offers j ∧ ∀ t q, Claims offers t q → q < j

theorem TickAt.lt (h : TickAt offers i t) : i < offers.length := by
  obtain ⟨cut, h⟩ := h
  exact (List.getElem?_eq_some_iff.1 h).1

theorem CutAt.lt (h : CutAt offers j) : j < offers.length := by
  obtain ⟨tick, h⟩ := h
  exact (List.getElem?_eq_some_iff.1 h).1

theorem Claims.lt (h : Claims offers t i) : i < offers.length := h.1.lt

theorem exists_claims (h : TickAt offers i t) : ∃ q, q ≤ i ∧ Claims offers t q := by
  induction i using Nat.strongRecOn with
  | ind i ih =>
    by_cases hfirst : ∃ j < i, TickAt offers j t
    · obtain ⟨j, hj, ht⟩ := hfirst
      obtain ⟨q, hq, hclaims⟩ := ih j hj ht
      exact ⟨q, by omega, hclaims⟩
    · exact ⟨i, Nat.le_refl i, h, fun j hj ht => hfirst ⟨j, hj, ht⟩⟩

/-! ### One more offer -/

theorem getElem?_concat_eq_some_iff {α : Type} {xs : List α} {x y : α} :
    (xs ++ [x])[i]? = some y ↔ xs[i]? = some y ∨ (i = xs.length ∧ x = y) := by
  by_cases hi : i < xs.length
  · rw [List.getElem?_append_left hi]
    constructor
    · exact Or.inl
    · rintro (h | ⟨rfl, -⟩)
      · exact h
      · omega
  · rw [List.getElem?_append_right (by omega), List.getElem?_eq_none (by omega : xs.length ≤ i)]
    by_cases he : i = xs.length
    · simp [he]
    · have hne : i - xs.length ≠ 0 := by omega
      simp [he, hne]

theorem tickAt_concat_iff :
    TickAt (offers ++ [(tick, cut)]) i t ↔
      TickAt offers i t ∨ (i = offers.length ∧ t = tick) := by
  unfold TickAt
  simp only [getElem?_concat_eq_some_iff, Prod.mk.injEq]
  constructor
  · rintro ⟨c, h | ⟨hi, rfl, rfl⟩⟩
    · exact .inl ⟨c, h⟩
    · exact .inr ⟨hi, rfl⟩
  · rintro (⟨c, h⟩ | ⟨hi, rfl⟩)
    · exact ⟨c, .inl h⟩
    · exact ⟨cut, .inr ⟨hi, rfl, rfl⟩⟩

theorem cutAt_concat_iff :
    CutAt (offers ++ [(tick, cut)]) j ↔
      CutAt offers j ∨ (j = offers.length ∧ cut = true) := by
  unfold CutAt
  simp only [getElem?_concat_eq_some_iff, Prod.mk.injEq]
  constructor
  · rintro ⟨t, h | ⟨hj, -, hcut⟩⟩
    · exact .inl ⟨t, h⟩
    · exact .inr ⟨hj, hcut⟩
  · rintro (⟨t, h⟩ | ⟨hj, hcut⟩)
    · exact ⟨t, .inl h⟩
    · exact ⟨tick, .inr ⟨hj, rfl, hcut⟩⟩

theorem claims_concat_iff :
    Claims (offers ++ [(tick, cut)]) t i ↔
      Claims offers t i ∨ (i = offers.length ∧ t = tick ∧ ∀ j, ¬ TickAt offers j tick) := by
  unfold Claims
  simp only [tickAt_concat_iff, not_or]
  constructor
  · rintro ⟨h | ⟨rfl, rfl⟩, hfirst⟩
    · exact .inl ⟨h, fun j hj => (hfirst j hj).1⟩
    · exact .inr ⟨rfl, rfl, fun j hj => (hfirst j hj.lt).1 hj⟩
  · rintro (⟨h, hfirst⟩ | ⟨rfl, rfl, hfresh⟩)
    · refine ⟨.inl h, fun j hj => ⟨hfirst j hj, ?_⟩⟩
      have := h.lt
      omega
    · exact ⟨.inr ⟨rfl, rfl⟩, fun j hj => ⟨hfresh j, by omega⟩⟩

theorem awaited_concat_iff_of_lt (hi : i < offers.length) :
    Awaited (offers ++ [(tick, cut)]) i ↔ Awaited offers i := by
  unfold Awaited
  simp only [cutAt_concat_iff, claims_concat_iff]
  constructor
  · rintro ⟨j, hcut | ⟨rfl, -⟩, hj, hlast⟩
    · exact ⟨j, hcut, hj, fun t q hq => hlast t q (.inl hq)⟩
    · omega
  · rintro ⟨j, hcut, hj, hlast⟩
    refine ⟨j, .inl hcut, hj, ?_⟩
    rintro t q (hq | ⟨rfl, -⟩) hqi
    · exact hlast t q hq hqi
    · omega

theorem awaited_concat_length_iff :
    Awaited (offers ++ [(tick, cut)]) offers.length ↔ CutPending offers ∨ cut = true := by
  unfold Awaited CutPending
  simp only [cutAt_concat_iff, claims_concat_iff]
  constructor
  · rintro ⟨j, hcut | ⟨-, hcut⟩, -, hlast⟩
    · exact .inl ⟨j, hcut, fun t q hq => hlast t q (.inl hq) hq.lt⟩
    · exact .inr hcut
  · rintro (⟨j, hcut, hlast⟩ | hcut)
    · refine ⟨j, .inl hcut, Nat.le_of_lt hcut.lt, ?_⟩
      rintro t q (hq | ⟨rfl, -⟩) hqi
      · exact hlast t q hq
      · omega
    · exact ⟨offers.length, .inr ⟨rfl, hcut⟩, Nat.le_refl _, fun t q _ hq => hq⟩

/-- A dropped offer leaves the cuts before it pending, and may add one. -/
theorem cutPending_concat_iff_of_tickAt (h : TickAt offers i tick) :
    CutPending (offers ++ [(tick, cut)]) ↔ CutPending offers ∨ cut = true := by
  unfold CutPending
  simp only [cutAt_concat_iff, claims_concat_iff]
  constructor
  · rintro ⟨j, hcut | ⟨-, hcut⟩, hlast⟩
    · exact .inl ⟨j, hcut, fun t q hq => hlast t q (.inl hq)⟩
    · exact .inr hcut
  · rintro (⟨j, hcut, hlast⟩ | hcut)
    · refine ⟨j, .inl hcut, ?_⟩
      rintro t q (hq | ⟨-, -, hfresh⟩)
      · exact hlast t q hq
      · exact absurd h (hfresh i)
    · refine ⟨offers.length, .inr ⟨rfl, hcut⟩, ?_⟩
      rintro t q (hq | ⟨-, -, hfresh⟩)
      · exact hq.lt
      · exact absurd h (hfresh i)

/-- An offer that claims its tick pays for all cuts up to itself. -/
theorem not_cutPending_concat (h : ∀ j, ¬ TickAt offers j tick) :
    ¬ CutPending (offers ++ [(tick, cut)]) := by
  rintro ⟨j, hcut, hlast⟩
  have hclaims : Claims (offers ++ [(tick, cut)]) tick offers.length :=
    claims_concat_iff.2 (.inr ⟨rfl, rfl, h⟩)
  have hlt := hlast tick offers.length hclaims
  have hle := hcut.lt
  rw [List.length_append, List.length_singleton] at hle
  omega

end Offers

/-! ## The pass -/

/-- The pass over these offers in order. -/
def run (offers : List (UInt32 × Bool)) : Pass :=
  offers.zipIdx.foldl (fun pass offer => pass.offer offer.1.1 offer.1.2 offer.2) {}

theorem run_concat (offers : List (UInt32 × Bool)) (tick : UInt32) (cut : Bool) :
    run (offers ++ [(tick, cut)]) = (run offers).offer tick cut offers.length := by
  rw [run, List.zipIdx_append, List.foldl_append, ← run]
  simp

/-- The samples of the pass are the claims, and its flag says whether a cut is pending. -/
structure Tracks (pass : Pass) (offers : List (UInt32 × Bool)) : Prop where
  sample_iff : ∀ t sample, pass.timeline[t]? = some sample ↔
    Claims offers t sample.index ∧ (sample.suppressEasing = true ↔ Awaited offers sample.index)
  pending_iff : pass.pending = true ↔ CutPending offers

theorem Tracks.mem_iff {pass : Pass} {offers : List (UInt32 × Bool)} (h : pass.Tracks offers)
    (t : UInt32) : t ∈ pass.timeline ↔ ∃ i, TickAt offers i t := by
  classical
  rw [Std.TreeMap.mem_iff_isSome_getElem?, Option.isSome_iff_exists]
  constructor
  · rintro ⟨sample, hs⟩
    exact ⟨sample.index, ((h.sample_iff t sample).1 hs).1.1⟩
  · rintro ⟨i, hi⟩
    obtain ⟨q, -, hq⟩ := exists_claims hi
    refine ⟨⟨q, decide (Awaited offers q)⟩, (h.sample_iff t _).2 ⟨hq, ?_⟩⟩
    exact decide_eq_true_iff

theorem tracks_nil : Tracks {} [] where
  sample_iff t sample := by
    constructor
    · intro h
      rw [Std.TreeMap.getElem?_emptyc] at h
      cases h
    · rintro ⟨h, -⟩
      exact absurd h.lt (Nat.not_lt_zero _)
  pending_iff := by
    constructor
    · intro h
      cases h
    · rintro ⟨j, h, -⟩
      exact absurd h.lt (Nat.not_lt_zero _)

theorem Tracks.offer {pass : Pass} {offers : List (UInt32 × Bool)} (h : pass.Tracks offers)
    (tick : UInt32) (cut : Bool) :
    (pass.offer tick cut offers.length).Tracks (offers ++ [(tick, cut)]) := by
  have hpending : (pass.pending || cut) = true ↔ CutPending offers ∨ cut = true := by
    rw [Bool.or_eq_true, h.pending_iff]
  by_cases hmem : tick ∈ pass.timeline
  · obtain ⟨i, hi⟩ := (h.mem_iff tick).1 hmem
    rw [Pass.offer, if_pos hmem]
    refine ⟨fun t sample => ?_, ?_⟩
    · rw [h.sample_iff, claims_concat_iff]
      constructor
      · rintro ⟨hclaims, hs⟩
        exact ⟨.inl hclaims, hs.trans (awaited_concat_iff_of_lt hclaims.lt).symm⟩
      · rintro ⟨hclaims | ⟨-, -, hfresh⟩, hs⟩
        · exact ⟨hclaims, hs.trans (awaited_concat_iff_of_lt hclaims.lt)⟩
        · exact absurd hi (hfresh i)
    · rw [cutPending_concat_iff_of_tickAt hi]
      exact hpending
  · have hfresh : ∀ j, ¬ TickAt offers j tick := fun j hj => hmem ((h.mem_iff tick).2 ⟨j, hj⟩)
    rw [Pass.offer, if_neg hmem]
    refine ⟨fun t sample => ?_, ?_⟩
    · rw [Std.TreeMap.getElem?_insert, claims_concat_iff]
      by_cases ht : tick = t
      · subst ht
        rw [if_pos (by simp), Option.some.injEq]
        constructor
        · rintro rfl
          exact ⟨.inr ⟨rfl, rfl, hfresh⟩, hpending.trans awaited_concat_length_iff.symm⟩
        · rintro ⟨hclaims | ⟨hindex, -, -⟩, hs⟩
          · exact absurd hclaims.1 (hfresh _)
          · obtain ⟨index, suppress⟩ := sample
            simp only at hindex hs
            subst hindex
            rw [awaited_concat_length_iff, ← hpending] at hs
            rw [Bool.eq_iff_iff.2 hs]
      · rw [if_neg (by simpa using ht), h.sample_iff]
        constructor
        · rintro ⟨hclaims, hs⟩
          exact ⟨.inl hclaims, hs.trans (awaited_concat_iff_of_lt hclaims.lt).symm⟩
        · rintro ⟨hclaims | ⟨-, rfl, -⟩, hs⟩
          · exact ⟨hclaims, hs.trans (awaited_concat_iff_of_lt hclaims.lt)⟩
          · exact absurd rfl ht
    · constructor
      · intro hfalse
        cases hfalse
      · intro hcut
        exact absurd hcut (not_cutPending_concat hfresh)

theorem tracks_run (offers : List (UInt32 × Bool)) : (run offers).Tracks offers := by
  induction offers using List.reverseRecOn with
  | nil => exact tracks_nil
  | append_singleton offers offer ih =>
    obtain ⟨tick, cut⟩ := offer
    rw [run_concat]
    exact ih.offer tick cut

end Pass

/-! ## Frames -/

/-- The frame at `j` follows the one before it by exactly one, and has a frame after it. -/
def IsCut (frames : List UInt32) (j : Nat) : Prop :=
  ∃ (_ : 0 < j) (_ : j + 1 < frames.length), frames[j].toNat = frames[j - 1].toNat + 1

theorem getElem?_cutsAfter_eq_true_iff {previous : Option UInt32} {frames : List UInt32}
    {j : Nat} :
    (cutsAfter previous frames)[j]? = some true ↔
      j + 1 < frames.length ∧ ∃ p f, (previous :: frames.map some)[j]? = some (some p) ∧
        frames[j]? = some f ∧ f.toNat = p.toNat + 1 := by
  fun_induction cutsAfter previous frames generalizing j with
  | case1 previous => simp
  | case2 previous frame =>
    cases j with
    | zero => simp
    | succ j => simp
  | case3 previous frame next rest ih =>
    cases j with
    | zero =>
      cases previous with
      | none => simp
      | some p => simp [eq_comm]
    | succ j =>
      rw [List.getElem?_cons_succ, ih]
      simp

theorem getElem?_cuts_eq_true_iff {frames : List UInt32} {j : Nat} :
    (cuts frames)[j]? = some true ↔ IsCut frames j := by
  rw [cuts, getElem?_cutsAfter_eq_true_iff]
  constructor
  · rintro ⟨hj, p, f, hp, hf, hnext⟩
    cases j with
    | zero => cases hp
    | succ j =>
      rw [List.getElem?_cons_succ, List.getElem?_map, Option.map_eq_some_iff] at hp
      obtain ⟨p', hp', hsome⟩ := hp
      cases hsome
      obtain ⟨_, rfl⟩ := List.getElem?_eq_some_iff.1 hp'
      obtain ⟨_, rfl⟩ := List.getElem?_eq_some_iff.1 hf
      exact ⟨Nat.succ_pos j, hj, hnext⟩
  · rintro ⟨hpos, hj, hnext⟩
    obtain ⟨j, rfl⟩ := Nat.exists_eq_succ_of_ne_zero (Nat.ne_of_gt hpos)
    refine ⟨hj, frames[j], frames[j + 1], ?_, List.getElem?_eq_getElem (by omega), hnext⟩
    rw [List.getElem?_cons_succ, List.getElem?_map, List.getElem?_eq_getElem (by omega)]
    rfl

/-- What is offered to a pass over these frames. -/
def offersOf (timebase : Timebase) (frames : List UInt32) : List (UInt32 × Bool) :=
  (frames.map timebase.tick).zip (cuts frames)

theorem tickAt_offersOf_iff {timebase : Timebase} {frames : List UInt32} {i : Nat}
    {t : UInt32} :
    Pass.TickAt (offersOf timebase frames) i t ↔
      ∃ h : i < frames.length, timebase.tick frames[i] = t := by
  have hlength : (cuts frames).length = frames.length := length_cutsAfter none frames
  unfold Pass.TickAt offersOf
  simp only [List.getElem?_zip_eq_some, List.getElem?_map, Option.map_eq_some_iff]
  constructor
  · rintro ⟨c, ⟨f, hf, ht⟩, -⟩
    obtain ⟨h, rfl⟩ := List.getElem?_eq_some_iff.1 hf
    exact ⟨h, ht⟩
  · rintro ⟨h, ht⟩
    exact ⟨(cuts frames)[i], ⟨frames[i], List.getElem?_eq_getElem h, ht⟩,
      List.getElem?_eq_getElem (by omega)⟩

theorem cutAt_offersOf_iff {timebase : Timebase} {frames : List UInt32} {j : Nat} :
    Pass.CutAt (offersOf timebase frames) j ↔ IsCut frames j := by
  unfold Pass.CutAt offersOf
  simp only [List.getElem?_zip_eq_some, getElem?_cuts_eq_true_iff]
  constructor
  · rintro ⟨t, -, h⟩
    exact h
  · intro h
    have hj := h.2.1
    refine ⟨timebase.tick frames[j], ?_, h⟩
    rw [List.getElem?_map, List.getElem?_eq_getElem (by omega)]
    rfl

namespace Timeline

/-- The samples of a timeline are the claims among its frames. -/
theorem getElem?_ofFrames_eq_some_iff {timebase : Timebase} {frames : List UInt32}
    {t : UInt32} {sample : Sample} :
    (ofFrames timebase frames)[t]? = some sample ↔
      Pass.Claims (offersOf timebase frames) t sample.index ∧
        (sample.suppressEasing = true ↔
          Pass.Awaited (offersOf timebase frames) sample.index) :=
  (Pass.tracks_run (offersOf timebase frames)).sample_iff t sample

theorem exists_sample_of_claims {timebase : Timebase} {frames : List UInt32} {t : UInt32}
    {i : Nat} (h : Pass.Claims (offersOf timebase frames) t i) :
    ∃ sample : Sample, (ofFrames timebase frames)[t]? = some sample ∧ sample.index = i := by
  classical
  exact ⟨⟨i, decide (Pass.Awaited (offersOf timebase frames) i)⟩,
    getElem?_ofFrames_eq_some_iff.2 ⟨h, decide_eq_true_iff⟩, rfl⟩

theorem isLeast_of_claims {timebase : Timebase} {frames : List UInt32} {t : UInt32} {i : Nat}
    (h : Pass.Claims (offersOf timebase frames) t i) :
    IsLeast {i | ∃ h : i < frames.length, timebase.tick frames[i] = t} i := by
  refine ⟨tickAt_offersOf_iff.1 h.1, fun j hj => ?_⟩
  by_contra hlt
  exact h.2 j (Nat.lt_of_not_le hlt) (tickAt_offersOf_iff.2 hj)

theorem mem_ofFrames_iff {timebase : Timebase} {frames : List UInt32} {t : UInt32} :
    t ∈ ofFrames timebase frames ↔
      ∃ i, ∃ h : i < frames.length, timebase.tick frames[i] = t := by
  rw [← exists_congr fun i => tickAt_offersOf_iff]
  exact (Pass.tracks_run (offersOf timebase frames)).mem_iff t

theorem pairwise_keys (timeline : Timeline) : timeline.keys.Pairwise (· < ·) := by
  refine timeline.ordered_keys.imp fun h => ?_
  exact Std.compare_eq_lt.1 h

/-- The last tick is the greatest one. -/
theorem lastTick?_eq_some_iff {timeline : Timeline} {t : UInt32} :
    timeline.lastTick? = some t ↔ IsGreatest {t | t ∈ timeline} t := by
  have hgreatest {t : UInt32} (h : timeline.lastTick? = some t) :
      IsGreatest {t | t ∈ timeline} t := by
    obtain ⟨front, hkeys⟩ := List.getLast?_eq_some_iff.1 h
    have hpairwise := pairwise_keys timeline
    rw [hkeys, List.pairwise_append] at hpairwise
    have hmem (t' : UInt32) : t' ∈ timeline ↔ t' ∈ front ∨ t' = t := by
      rw [← Std.TreeMap.mem_keys, hkeys, List.mem_append, List.mem_singleton]
    refine ⟨(hmem t).2 (.inr rfl), fun t' ht' => ?_⟩
    rcases (hmem t').1 ht' with hfront | rfl
    · exact UInt32.le_of_lt (hpairwise.2.2 t' hfront t List.mem_cons_self)
    · exact UInt32.le_refl _
  constructor
  · exact hgreatest
  · intro h
    cases hlast : timeline.lastTick? with
    | none =>
      have hmem := Std.TreeMap.mem_keys.2 h.1
      rw [List.getLast?_eq_none_iff.1 hlast] at hmem
      cases hmem
    | some t' =>
      have ht' := hgreatest hlast
      rw [UInt32.le_antisymm (h.2 ht'.1) (ht'.2 h.1)]

/-! ## Cuts between samples -/

/-- The positions of the samples before `index`. -/
def indicesBefore (timeline : Timeline) (index : Nat) : Set Int :=
  {q | ∃ (t : UInt32) (sample : Sample),
    timeline[t]? = some sample ∧ sample.index < index ∧ q = sample.index}

/-- The position of the last sample before `index`, or `-1` where there is none. -/
def IsPrevious (timeline : Timeline) (index : Nat) (p : Int) : Prop :=
  IsGreatest (insert (-1) (timeline.indicesBefore index)) p

theorem exists_isPrevious (timeline : Timeline) (index : Nat) :
    ∃ p, timeline.IsPrevious index p := by
  induction index with
  | zero =>
    refine ⟨-1, Set.mem_insert _ _, ?_⟩
    rintro q (rfl | ⟨t, sample, -, hlt, -⟩)
    · exact Int.le_refl _
    · omega
  | succ index ih =>
    by_cases hi : ∃ (t : UInt32) (sample : Sample),
        timeline[t]? = some sample ∧ sample.index = index
    · obtain ⟨t, sample, hs, hindex⟩ := hi
      refine ⟨index, .inr ⟨t, sample, hs, by omega, by omega⟩, ?_⟩
      rintro q (rfl | ⟨t', sample', -, hlt, rfl⟩)
      · omega
      · omega
    · obtain ⟨p, hp, hgreatest⟩ := ih
      refine ⟨p, ?_, ?_⟩
      · rcases hp with rfl | ⟨t, sample, hs, hlt, hpos⟩
        · exact Set.mem_insert _ _
        · exact .inr ⟨t, sample, hs, by omega, hpos⟩
      · rintro q (rfl | ⟨t, sample, hs, hlt, rfl⟩)
        · exact hgreatest (Set.mem_insert _ _)
        · have hne : sample.index ≠ index := fun h => hi ⟨t, sample, hs, h⟩
          exact hgreatest (.inr ⟨t, sample, hs, by omega, rfl⟩)

theorem IsPrevious.lt_iff {timebase : Timebase} {frames : List UInt32} {i j : Nat} {p : Int}
    (h : (ofFrames timebase frames).IsPrevious i p) :
    p < j ↔ ∀ t q, Pass.Claims (offersOf timebase frames) t q → q < i → q < j := by
  rw [IsGreatest.lt_iff h]
  constructor
  · intro hlt t q hq hqi
    obtain ⟨sample, hs, rfl⟩ := exists_sample_of_claims hq
    have := hlt sample.index (.inr ⟨t, sample, hs, hqi, rfl⟩)
    omega
  · rintro hlt q (rfl | ⟨t, sample, hs, hqi, rfl⟩)
    · omega
    · have := hlt t sample.index (getElem?_ofFrames_eq_some_iff.1 hs).1 hqi
      omega

theorem awaited_iff {timebase : Timebase} {frames : List UInt32} {i : Nat} {p : Int}
    (h : (ofFrames timebase frames).IsPrevious i p) :
    Pass.Awaited (offersOf timebase frames) i ↔
      ∃ j : Nat, p < j ∧ j ≤ i ∧ IsCut frames j := by
  unfold Pass.Awaited
  constructor
  · rintro ⟨j, hcut, hj, hlast⟩
    exact ⟨j, h.lt_iff.2 hlast, hj, cutAt_offersOf_iff.1 hcut⟩
  · rintro ⟨j, hp, hj, hcut⟩
    exact ⟨j, cutAt_offersOf_iff.2 hcut, hj, h.lt_iff.1 hp⟩

/-- The spans between samples do not overlap. -/
theorem IsPrevious.le_of_lt {timeline : Timeline} {t : UInt32} {sample : Sample} {i : Nat}
    {p : Int} (hs : timeline[t]? = some sample) (h : timeline.IsPrevious i p)
    (hlt : sample.index < i) : (sample.index : Int) ≤ p :=
  h.2 (.inr ⟨t, sample, hs, hlt, rfl⟩)

/-- A hard cut carries over to the first sample that is not before it. -/
theorem suppressEasing_of_isCut {timebase : Timebase} {frames : List UInt32} {t : UInt32}
    {sample : Sample} {j : Nat} (hs : (ofFrames timebase frames)[t]? = some sample)
    (hcut : IsCut frames j) (hj : j ≤ sample.index)
    (hfirst : ∀ (t' : UInt32) (sample' : Sample), (ofFrames timebase frames)[t']? = some sample' →
      j ≤ sample'.index → sample.index ≤ sample'.index) :
    sample.suppressEasing = true := by
  rw [(getElem?_ofFrames_eq_some_iff.1 hs).2]
  refine ⟨j, cutAt_offersOf_iff.2 hcut, hj, fun t' q hq hqi => ?_⟩
  obtain ⟨sample', hs', rfl⟩ := exists_sample_of_claims hq
  have := hfirst t' sample' hs'
  omega

/-- **The timeline of a list of frames.** Its ticks are those of the frames, in increasing
order. A tick is played by its first keyframe. It is reached without easing exactly where
there is a hard cut up to this keyframe and behind the last sampled keyframe before it; so a
cut on a keyframe that is not sampled counts for the next one that is, and no cut counts
twice. -/
theorem ofFrames_spec (timebase : Timebase) (frames : List UInt32) :
    (ofFrames timebase frames).keys.Pairwise (· < ·) ∧
      (∀ t, t ∈ (ofFrames timebase frames).keys ↔
        ∃ i, ∃ h : i < frames.length, timebase.tick frames[i] = t) ∧
      (∀ (t : UInt32) (sample : Sample), (ofFrames timebase frames)[t]? = some sample →
        IsLeast {i | ∃ h : i < frames.length, timebase.tick frames[i] = t} sample.index ∧
        ∃ p, (ofFrames timebase frames).IsPrevious sample.index p ∧
          (sample.suppressEasing = true ↔
            ∃ j : Nat, p < j ∧ j ≤ sample.index ∧ IsCut frames j)) ∧
      (∀ (t t' : UInt32) (sample sample' : Sample) (p p' : Int) (j : Nat),
        (ofFrames timebase frames)[t]? = some sample →
        (ofFrames timebase frames)[t']? = some sample' →
        (ofFrames timebase frames).IsPrevious sample.index p →
        (ofFrames timebase frames).IsPrevious sample'.index p' →
        p < j → j ≤ sample.index → p' < j → j ≤ sample'.index → t = t') ∧
      (∀ (t : UInt32) (sample : Sample) (j : Nat),
        (ofFrames timebase frames)[t]? = some sample → IsCut frames j → j ≤ sample.index →
        (∀ (t' : UInt32) (sample' : Sample), (ofFrames timebase frames)[t']? = some sample' →
          j ≤ sample'.index → sample.index ≤ sample'.index) →
        sample.suppressEasing = true) := by
  refine ⟨pairwise_keys _, fun t => ?_, fun t sample hs => ?_, ?_,
    fun t sample j hs hcut hj => suppressEasing_of_isCut hs hcut hj⟩
  · rw [Std.TreeMap.mem_keys]
    exact mem_ofFrames_iff
  · obtain ⟨hclaims, hsuppress⟩ := getElem?_ofFrames_eq_some_iff.1 hs
    obtain ⟨p, hp⟩ := exists_isPrevious (ofFrames timebase frames) sample.index
    exact ⟨isLeast_of_claims hclaims, p, hp, hsuppress.trans (awaited_iff hp)⟩
  · intro t t' sample sample' p p' j hs hs' hp hp' hpj hj hpj' hj'
    have hle : ¬ sample.index < sample'.index := fun hlt => by
      have := hp'.le_of_lt hs hlt
      omega
    have hge : ¬ sample'.index < sample.index := fun hlt => by
      have := hp.le_of_lt hs' hlt
      omega
    have heq : sample.index = sample'.index := by omega
    obtain ⟨h, rfl⟩ := tickAt_offersOf_iff.1 (getElem?_ofFrames_eq_some_iff.1 hs).1.1
    obtain ⟨h', rfl⟩ := tickAt_offersOf_iff.1 (getElem?_ofFrames_eq_some_iff.1 hs').1.1
    simp only [heq]

end Timeline

end CameraScript
