import GB28181.Lib.SmartSocket

/-!
# Frames and segments (`GB28181.Lib/SmartSocket.cpp`)

What `ProRawData` makes of a stream of well-formed frames, by the reads that bring it.

* `frameLoop_pending`, `proRawData_pending` — one read queues the frames it completes, and what it
  has of the next one is kept;
* `frames_received` — the frames of a stream are queued, each once and in order, whatever the cuts
  **as long as every read `Fits`**: no length field is cut, no frame is finished by fewer than four
  bytes or by more than the missing ones, and the bytes that finish one do not look like a frame.
-/

set_option autoImplicit false

namespace GB28181.Lib

open GB28181.Base

/-- A length `n` from 8 to 50000, then `n` bytes of which the last is the marker. -/
structure IsFrame (f : CStr) : Prop where
  size : (f.length : Int) = int32Value f + 4
  low : 8 ≤ int32Value f
  high : int32Value f ≤ 50000
  last : f.getLast? = some 0x23

theorem IsFrame.marked {f : CStr} (h : IsFrame f) : marked f (int32Value f) = true := by
  obtain ⟨hsize, hlow, -, hlast⟩ := h
  rw [GB28181.Lib.marked, show (int32Value f + 3).toNat = f.length - 1 by omega,
    ← List.getLast?_eq_getElem?, hlast]
  rfl

def Input.bytes : Input → CStr
  | .read pBuf _ => pBuf
  | .send _ _ => []

def received (inputs : List Input) : CStr := (inputs.map Input.bytes).flatten

/-- The frames are queued behind what is there, and none is left incomplete. -/
def Received (frames : List CStr) (s : RawReceiver) (r : Except Fault RawReceiver) : Prop :=
  ∃ s', r = .ok s' ∧ s'.m_vecRawDataPkgList = s.m_vecRawDataPkgList ++ frames ∧
    s'.pIncompleteData = none

/-- Bytes that are no frame when they are looked at as one. -/
def Quiet (pBuf : CStr) : Prop :=
  50000 < int32Value pBuf ∨ 8 > int32Value pBuf ∨
    (int32Value pBuf + 4 ≤ pBuf.length ∧
      ¬ marked (pBuf.take (int32Value pBuf + 4).toNat) (int32Value pBuf) = true)

/-- Nothing is sent while a frame is incomplete.  A read that begins a frame has its length, and so
has every frame behind it; one that goes on with a frame has at most the bytes it misses, and
where these are all of them, there are four at least and they are no frame themselves. -/
def Fits (s : RawReceiver) : Input → Prop
  | .send _ _ => s.pIncompleteData = none
  | .read pBuf junk =>
    (s.pIncompleteData = none → FirstSafe junk pBuf) ∧
      (s.pIncompleteData ≠ none → pBuf.length ≤ s.nSurplus ∧
        ((pBuf.length : Int) = s.nSurplus → 4 ≤ pBuf.length ∧ Quiet pBuf))

/-- The frames that are not queued yet and the bytes of them that are not read yet. -/
inductive Pending (s : RawReceiver) : List CStr → CStr → Prop
  | boundary {todo : List CStr} {rest : CStr} : s.pIncompleteData = none → todo.flatten = rest →
      Pending s todo rest
  | begun {p q tail : CStr} {todo : List CStr} {rest : CStr} :
      s.pIncompleteData = some (p ++ tail) → Partial s.nSurplus (p ++ tail) →
      (q.length : Int) = s.nSurplus → tail.length = q.length → q ++ todo.flatten = rest →
      Pending s ((p ++ q) :: todo) rest

theorem frameLoop_cut {junk : Nat → UInt8} {s : RawReceiver} {b : CStr} (h4 : 4 ≤ b.length)
    (hcut : b.length < int32Value b + 4) (hmax : int32Value b + 4 ≤ 2147483647)
    (hmark : ¬ marked (overwrite (rawData junk (int32Value b + 4).toNat) 0 b)
      (int32Value b) = true) :
    frameLoop junk s b = .ok (-1, { s with
      pIncompleteData := some (overwrite (rawData junk (int32Value b + 4).toNat) 0 b)
      nSurplus := int32Value b + 4 - b.length }) := by
  rw [frameLoop, if_neg (List.ne_nil_of_length_pos (by omega)), if_neg (by omega),
    if_neg (by omega), if_pos hcut, if_neg hmark]

theorem frameLoop_marked {junk : Nat → UInt8} {s : RawReceiver} {b : CStr} (h4 : 4 ≤ b.length)
    (hwhole : int32Value b + 4 ≤ b.length) (hpos : 0 < int32Value b + 4)
    (hmax : int32Value b + 4 ≤ 2147483647)
    (hmark : marked (b.take (int32Value b + 4).toNat) (int32Value b) = true) :
    frameLoop junk s b = frameLoop junk
      ({ s with pIncompleteData := none, nSurplus := 0 }.addDataToList
        (b.take (int32Value b + 4).toNat))
      (b.drop (int32Value b + 4).toNat) := by
  rw [frameLoop, if_neg (List.ne_nil_of_length_pos (by omega)), if_neg (by omega),
    if_neg (by omega), if_neg (by omega), if_neg (by omega), if_pos hmark]

theorem frameLoop_unmarked {junk : Nat → UInt8} {s : RawReceiver} {b : CStr} (h4 : 4 ≤ b.length)
    (hwhole : int32Value b + 4 ≤ b.length) (hpos : 0 < int32Value b + 4)
    (hmax : int32Value b + 4 ≤ 2147483647)
    (hmark : ¬ marked (b.take (int32Value b + 4).toNat) (int32Value b) = true) :
    frameLoop junk s b = .ok (-1, { s with pIncompleteData := none, nSurplus := 0 }) := by
  rw [frameLoop, if_neg (List.ne_nil_of_length_pos (by omega)), if_neg (by omega),
    if_neg (by omega), if_neg (by omega), if_neg (by omega), if_neg hmark]

/-- A frame and a read that start at the same place have the same length field. -/
theorem int32Value_eq_of_append {f b x y : CStr} (hf : 4 ≤ f.length) (hb : 4 ≤ b.length)
    (h : f ++ x = b ++ y) : int32Value f = int32Value b := by
  rw [← int32Value_append hf x, h, int32Value_append hb]

/-- Of two ways to cut one stream, the later one cuts what the earlier one leaves. -/
theorem exists_cut {x y b z : CStr} (h : x ++ y = b ++ z) (hle : b.length ≤ x.length) :
    ∃ q, x = b ++ q ∧ z = q ++ y := by
  rcases List.append_eq_append_iff.mp h with ⟨b', rfl, rfl⟩ | hq
  · rw [List.length_append] at hle
    obtain rfl : b' = [] := List.eq_nil_of_length_eq_zero (by omega)
    exact ⟨[], by rw [List.append_nil, List.append_nil], rfl⟩
  · exact hq

/-- A stream of which a read has the length field starts with a frame of that length. -/
theorem exists_head {todo : List CStr} {b rest : CStr} (hframes : ∀ f ∈ todo, IsFrame f)
    (h4 : 4 ≤ b.length) (hstream : todo.flatten = b ++ rest) :
    ∃ f todo', todo = f :: todo' ∧ IsFrame f ∧ f ++ todo'.flatten = b ++ rest ∧
      int32Value f = int32Value b := by
  cases todo with
  | nil =>
    have hlen := congrArg List.length hstream
    simp only [List.flatten_nil, List.length_nil, List.length_append] at hlen
    omega
  | cons f todo =>
    have hf := hframes f List.mem_cons_self
    have hsize := hf.size
    have hlow := hf.low
    exact ⟨f, todo, rfl, hf, hstream, int32Value_eq_of_append (by omega) h4 hstream⟩

theorem frameLoop_pending {junk : Nat → UInt8} {b rest : CStr} (hsafe : LoopSafe junk b) :
    ∀ {s : RawReceiver} {todo : List CStr}, s.pIncompleteData = none →
      (∀ f ∈ todo, IsFrame f) → todo.flatten = b ++ rest →
      ∃ r done todo', frameLoop junk s b = .ok r ∧ todo = done ++ todo' ∧
        r.2.m_vecRawDataPkgList = s.m_vecRawDataPkgList ++ done ∧ Pending r.2 todo' rest := by
  induction hsafe with
  | done =>
    intro s todo hs _ hstream
    refine ⟨(0, s), [], todo, ?_, rfl, (List.append_nil _).symm, .boundary hs hstream⟩
    rw [frameLoop, if_pos rfl]
  | @cut b h4 hcut hmax hjunk =>
    intro s todo hs hframes hstream
    have hmark := fun h => hjunk ((marked_cut hcut).mp h)
    have hkept := partial_cut h4 hcut hmark
    obtain ⟨f, todo, rfl, hf, hstream, hvalue⟩ := exists_head hframes h4 hstream
    have hsize := hf.size
    obtain ⟨q, rfl, rfl⟩ := exists_cut hstream (by omega)
    refine ⟨_, [], (b ++ q) :: todo, frameLoop_cut h4 hcut hmax hmark, rfl,
      (List.append_nil _).symm, ?_⟩
    rw [List.length_append] at hsize
    rw [overwrite_zero] at hkept ⊢
    refine .begun rfl hkept ?_ ?_ rfl
    · dsimp only
      omega
    · rw [List.length_drop, rawData_length]
      omega
  | @whole b h4 hwhole hpos hmax _ ih =>
    intro s todo hs hframes hstream
    obtain ⟨f, todo, rfl, hf, hstream, hvalue⟩ := exists_head hframes h4 hstream
    have hsize := hf.size
    have hfmark := hf.marked
    have hlen : (int32Value b + 4).toNat = f.length := by omega
    obtain ⟨b', rfl, hrest⟩ := exists_cut hstream.symm (by omega)
    have hmark : GB28181.Lib.marked ((f ++ b').take (int32Value (f ++ b') + 4).toNat)
        (int32Value (f ++ b')) = true := by
      rw [hlen, List.take_left, ← hvalue]
      exact hfmark
    rw [hlen, List.take_left, List.drop_left] at ih
    obtain ⟨r, done, todo', hloop, rfl, hqueue, hpending⟩ := ih (hvalue ▸ hfmark)
      (s := { s with pIncompleteData := none, nSurplus := 0 }.addDataToList f) rfl
      (fun g hg => hframes g (List.mem_cons_of_mem _ hg)) hrest
    refine ⟨r, f :: done, todo', ?_, rfl, ?_, hpending⟩
    · rw [frameLoop_marked h4 hwhole hpos hmax hmark, hlen, List.take_left, List.drop_left]
      exact hloop
    · rw [hqueue]
      exact List.append_assoc _ [f] done

theorem proFrames_quiet (junk : Nat → UInt8) {s : RawReceiver} {pBuf : CStr}
    (h4 : 4 ≤ pBuf.length) (hquiet : Quiet pBuf) (hs : s.pIncompleteData = none) :
    ∃ r, proFrames junk s pBuf = .ok r ∧ r.2.pIncompleteData = none ∧
      r.2.m_vecRawDataPkgList = s.m_vecRawDataPkgList := by
  unfold proFrames
  rw [if_neg (by omega)]
  by_cases hrange : 50000 < int32Value pBuf ∨ 8 > int32Value pBuf
  · rw [if_pos hrange]
    exact ⟨_, rfl, hs, rfl⟩
  · obtain ⟨hwhole, hmark⟩ : int32Value pBuf + 4 ≤ pBuf.length ∧
        ¬ marked (pBuf.take (int32Value pBuf + 4).toNat) (int32Value pBuf) = true := by
      rcases hquiet with h | h | h
      · exact absurd (Or.inl h) hrange
      · exact absurd (Or.inr h) hrange
      · exact h
    rw [if_neg hrange, frameLoop_unmarked h4 hwhole (by omega) (by omega) hmark]
    exact ⟨_, rfl, rfl, rfl⟩

theorem proRawData_pending {junk : Nat → UInt8} {s : RawReceiver} {todo : List CStr}
    {pBuf rest : CStr} (hpending : Pending s todo (pBuf ++ rest))
    (hframes : ∀ f ∈ todo, IsFrame f) (hfits : Fits s (.read pBuf junk)) :
    ∃ r done todo', proRawData junk s pBuf = .ok r ∧ todo = done ++ todo' ∧
      r.2.m_vecRawDataPkgList = s.m_vecRawDataPkgList ++ done ∧ Pending r.2 todo' rest := by
  cases hpending with
  | boundary hs hflat =>
    obtain ⟨h4, hsafe⟩ := hfits.1 hs
    obtain ⟨f, todo', rfl, hf, -, hvalue⟩ := exists_head hframes h4 hflat
    have hlow := hf.low
    have hhigh := hf.high
    rw [proRawData_none hs, proFrames, if_neg (by omega), if_neg (by omega)]
    exact frameLoop_pending (hsafe (by omega)) hs hframes hflat
  | @begun p q tail todo _ hs hkept hq htail hstream =>
    obtain ⟨hle, hfull⟩ := hfits.2 (by rw [hs]; exact Option.some_ne_none _)
    have hbegun := hkept.begun
    have hindex := hkept.index
    rw [List.length_append] at hbegun hindex
    have hat : (int32Value (p ++ tail) - s.nSurplus + 4).toNat = p.length := by omega
    have hbuf := overwrite_append p tail pBuf
    have hlast := (hframes _ List.mem_cons_self).last
    obtain ⟨q', rfl, rfl⟩ := exists_cut hstream (by omega)
    rw [List.length_append] at hq htail
    by_cases hend : q' = []
    · subst hend
      rw [List.length_nil, Nat.add_zero] at hq htail
      obtain ⟨h4, hquiet⟩ := hfull hq
      have hne : pBuf ≠ [] := List.ne_nil_of_length_pos (by omega)
      rw [List.append_nil, List.getLast?_append_of_ne_nil p hne] at hlast
      have hmark := (hkept.marked_iff hle).mpr ⟨hq, hlast⟩
      rw [proRawData_marked hs hkept hle hmark, hat, hbuf, List.drop_of_length_le (by omega),
        List.append_nil]
      obtain ⟨r, hr, hnone, hqueue⟩ := proFrames_quiet junk
        (s := { s.addDataToList (p ++ pBuf) with pIncompleteData := none }) h4 hquiet rfl
      exact ⟨r, [p ++ pBuf], todo, hr, by rw [List.append_nil]; rfl, hqueue,
        .boundary hnone (List.nil_append _).symm⟩
    · have hpos := List.length_pos_of_ne_nil hend
      have hmark := mt (hkept.marked_iff hle).mp fun h => by omega
      have hextend := hkept.extend hle hmark
      rw [proRawData_unmarked hs hkept hle hmark]
      rw [hat, hbuf] at hextend ⊢
      refine ⟨_, [], _, rfl, rfl, (List.append_nil _).symm, ?_⟩
      rw [← List.append_assoc p]
      refine .begun rfl hextend ?_ ?_ rfl
      · dsimp only
        omega
      · rw [List.length_drop]
        omega

theorem Pending.finished {s : RawReceiver} {todo : List CStr} (h : Pending s todo [])
    (hframes : ∀ f ∈ todo, IsFrame f) : todo = [] ∧ s.pIncompleteData = none := by
  cases h with
  | boundary hs hflat =>
    refine ⟨?_, hs⟩
    cases todo with
    | nil => rfl
    | cons f todo =>
      obtain ⟨hsize, hlow, -, -⟩ := hframes f List.mem_cons_self
      rw [List.flatten_eq_nil_iff.mp hflat f List.mem_cons_self] at hsize hlow
      rw [List.length_nil] at hsize
      omega
  | @begun p q tail todo _ hs hkept hq htail hstream =>
    have hnil : q = [] := (List.append_eq_nil_iff.mp hstream).1
    have hmark := (hframes _ List.mem_cons_self).marked
    rw [hnil, List.length_nil] at htail
    have hunmarked := hkept.unmarked
    rw [List.eq_nil_of_length_eq_zero htail, ← hnil, hmark] at hunmarked
    cases hunmarked

/-- **Frames do not depend on how the stream is cut, as long as every read fits.** -/
theorem frames_received {s : RawReceiver} {frames : List CStr} {inputs : List Input}
    (hs : s.pIncompleteData = none) (hframes : ∀ f ∈ frames, IsFrame f)
    (hreads : received inputs = frames.flatten)
    (hfits : ∀ p ∈ tryCalls step s inputs, Fits p.1 p.2) :
    Received frames s (tryRun step s inputs) := by
  let Rel : RawReceiver → List Input → Prop := fun s' is =>
    ∃ done todo, frames = done ++ todo ∧
      s'.m_vecRawDataPkgList = s.m_vecRawDataPkgList ++ done ∧ Pending s' todo (received is)
  have keep : ∀ s' i is, Rel s' (i :: is) → Fits s' i →
      ∃ s'', step s' i = .ok s'' ∧ Rel s'' is := by
    rintro s' i is ⟨done, todo, hsplit, hqueue, hpending⟩ hfit
    cases i with
    | send buf results =>
      refine ⟨_, rfl, done, todo, hsplit, hqueue, ?_⟩
      cases hpending with
      | boundary _ hflat => exact .boundary rfl hflat
      | begun hinc =>
        rw [hfit] at hinc
        cases hinc
    | read pBuf junk =>
      obtain ⟨r, done', todo', hr, rfl, hqueue', hpending'⟩ := proRawData_pending hpending
        (fun f hf => hframes f (hsplit ▸ List.mem_append_right done hf)) hfit
      refine ⟨r.2, map_snd_ok_iff.mpr ⟨r.1, hr⟩, done ++ done', todo', ?_, ?_, hpending'⟩
      · rw [hsplit, List.append_assoc]
      · rw [hqueue', hqueue, List.append_assoc]
  have hstart : Rel s inputs :=
    ⟨[], frames, rfl, (List.append_nil _).symm, .boundary hs hreads.symm⟩
  obtain ⟨s', hrun, done, todo, rfl, hqueue, hpending⟩ := tryRun_of_rel Rel keep hstart hfits
  obtain ⟨rfl, hnone⟩ := hpending.finished fun f hf => hframes f (List.mem_append_right done hf)
  exact ⟨s', hrun, by rw [hqueue, List.append_nil], hnone⟩

theorem last_read_finishes :
    step
      { pIncompleteData := some [8, 0, 0, 0, 1, 2, 3, 4, 0, 0, 0, 0]
        nSurplus := 4
        m_vecRawDataPkgList := [] } (.read [5, 6, 7, 0x23] fun _ => 0) = .ok
      { pIncompleteData := none
        nSurplus := 4
        m_vecRawDataPkgList := [[8, 0, 0, 0, 1, 2, 3, 4, 5, 6, 7, 0x23]] } := rfl

theorem frames_received_cutOnce :
    Received [[8, 0, 0, 0, 1, 2, 3, 4, 5, 6, 7, 0x23]] RawReceiver.init
      (tryRun step RawReceiver.init
        [.read [8, 0, 0, 0, 1, 2, 3, 4] fun _ => 0, .read [5, 6, 7, 0x23] fun _ => 0,
          .send [1] [.sent 1]]) := by
  refine frames_received rfl ?_ rfl ?_
  · intro f hf
    rw [List.mem_singleton] at hf
    subst hf
    exact ⟨by decide, by decide, by decide, rfl⟩
  · rw [tryCalls_cons_ok first_read_cut, tryCalls_cons_ok last_read_finishes]
    simp only [tryCalls, step, List.forall_mem_cons]
    refine ⟨⟨fun _ => ⟨by decide, fun _ => ?_⟩, fun h => absurd rfl h⟩,
      ⟨fun h => absurd h (Option.some_ne_none _),
        fun _ => ⟨by decide, fun _ => ⟨by decide, Or.inl (by decide)⟩⟩⟩, rfl, ?_⟩
    · exact .cut (by decide) (by decide) (by decide) (by decide)
    · intro p hp
      cases hp

/-- The bytes that finish a frame look like the start of another one, which is left behind. -/
theorem cut_leaves_incomplete :
    IsFrame [12, 0, 0, 0, 1, 2, 3, 4, 8, 0, 0, 0, 5, 6, 7, 0x23] ∧
      ¬ Received [[12, 0, 0, 0, 1, 2, 3, 4, 8, 0, 0, 0, 5, 6, 7, 0x23]] RawReceiver.init
        (tryRun step RawReceiver.init
          [.read [12, 0, 0, 0, 1, 2, 3, 4] fun _ => 0,
            .read [8, 0, 0, 0, 5, 6, 7, 0x23] fun _ => 0]) := by
  have hloop₁ : frameLoop (fun _ => 0) RawReceiver.init [12, 0, 0, 0, 1, 2, 3, 4] = .ok (-1,
      { pIncompleteData := some [12, 0, 0, 0, 1, 2, 3, 4, 0, 0, 0, 0, 0, 0, 0, 0]
        nSurplus := 8
        m_vecRawDataPkgList := [] }) := by
    rw [frameLoop]
    decide
  have hstep₁ : step RawReceiver.init (.read [12, 0, 0, 0, 1, 2, 3, 4] fun _ => 0) = .ok
      { pIncompleteData := some [12, 0, 0, 0, 1, 2, 3, 4, 0, 0, 0, 0, 0, 0, 0, 0]
        nSurplus := 8
        m_vecRawDataPkgList := [] } := map_snd_ok_iff.mpr ⟨-1, hloop₁⟩
  have hloop₂ : frameLoop (fun _ => 0)
      { pIncompleteData := none
        nSurplus := 8
        m_vecRawDataPkgList := [[12, 0, 0, 0, 1, 2, 3, 4, 8, 0, 0, 0, 5, 6, 7, 0x23]] }
      [8, 0, 0, 0, 5, 6, 7, 0x23] = .ok (-1,
      { pIncompleteData := some [8, 0, 0, 0, 5, 6, 7, 0x23, 0, 0, 0, 0]
        nSurplus := 4
        m_vecRawDataPkgList := [[12, 0, 0, 0, 1, 2, 3, 4, 8, 0, 0, 0, 5, 6, 7, 0x23]] }) := by
    rw [frameLoop]
    decide
  have hstep₂ : step
      { pIncompleteData := some [12, 0, 0, 0, 1, 2, 3, 4, 0, 0, 0, 0, 0, 0, 0, 0]
        nSurplus := 8
        m_vecRawDataPkgList := [] } (.read [8, 0, 0, 0, 5, 6, 7, 0x23] fun _ => 0) = .ok
      { pIncompleteData := some [8, 0, 0, 0, 5, 6, 7, 0x23, 0, 0, 0, 0]
        nSurplus := 4
        m_vecRawDataPkgList := [[12, 0, 0, 0, 1, 2, 3, 4, 8, 0, 0, 0, 5, 6, 7, 0x23]] } :=
    map_snd_ok_iff.mpr ⟨-1, hloop₂⟩
  refine ⟨⟨by decide, by decide, by decide, rfl⟩, ?_⟩
  rw [tryRun_cons_ok hstep₁, tryRun_cons_ok hstep₂]
  rintro ⟨s', hs', -, hnone⟩
  cases hs'
  cases hnone

end GB28181.Lib
