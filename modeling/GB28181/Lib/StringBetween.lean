import GB28181.Lib.AdapterHandlers
import GB28181.Lib.ExtractXML
import Mathlib.Data.List.TakeWhile

/-!
# `GetStringBetween` (`GBUtils/Algorithm/Algorithm.cpp`, `GB28181.Lib/UACTCP.cpp`)

Both copies look for the first front marker and, from the beginning of the text again, for the first
back marker.  The number of characters they take between them is too small by the length of the back
marker and too large by one.  The copy of the client takes a front marker at the beginning for none
and leaves out the blanks on the left.  A `substr` that begins behind the text throws: `none`.

* `between` — what a search should return;
* `cut_eq_between_iff` — when a number of characters is the right one;
* `getStringBetween_iff` — the first copy; `clientGetStringBetween_iff` — the copy of the client;
* `stringBetween_iff` — both copies: none throws, and each returns the right text **exactly where
  its condition holds**.
-/

set_option autoImplicit false

namespace GB28181.Lib.StringBetween

open GB28181.Base
open GB28181.Lib.ExternalInterface (find)

/-! ## The two copies -/

/-- `substr`; a negative length is a very large one. -/
def substr (strData : CStr) (nPos : Nat) (nLength : Int) : Option CStr :=
  if nPos ≤ strData.length then some (ExternalInterface.substr strData nPos nLength) else none

/-- The two calls of `substr`. -/
def cutOut (strData : CStr) (nPos_L nPos_R : Nat) (strFront strBack : CStr) (bIsInclude : Bool) :
    Option CStr :=
  if bIsInclude = false then
    substr strData (nPos_L + strFront.length) (nPos_R - nPos_L - strBack.length + 1)
  else substr strData nPos_L (nPos_R - nPos_L + strBack.length)

/-- `GetStringBetween` of `Algorithm.cpp`. -/
def getStringBetween (strData strFront strBack : CStr) (bIsInclude : Bool) : Option CStr :=
  match find strData strFront, find strData strBack with
  | some nPos_L, some nPos_R =>
    if nPos_L ≥ nPos_R then some []
    else cutOut strData nPos_L nPos_R strFront strBack bIsInclude
  | _, _ => some []

/-- The loop that erases a blank at the front as long as there is one.  The loop behind it looks
for the last blank, which is not at the front any more. -/
def eraseBlanks (strTmp : CStr) : CStr := strTmp.dropWhile (· == 0x20)

/-- `GetStringBetween` of `UACTCP.cpp`. -/
def clientGetStringBetween (strData strFront strBack : CStr) (bIsInclude : Bool) : Option CStr :=
  match find strData strFront, find strData strBack with
  | some nPos_L, some nPos_R =>
    if 0 ≥ nPos_L ∨ nPos_L ≥ nPos_R then some []
    else (cutOut strData nPos_L nPos_R strFront strBack bIsInclude).map eraseBlanks
  | _, _ => some []

/-- The text between the first front marker and the first back marker that follows it. -/
def between (strData strFront strBack : CStr) (bIsInclude : Bool) : CStr :=
  match breakOn strFront strData with
  | none => []
  | some (_, post) =>
    match breakOn strBack post with
    | none => []
    | some (text, _) => if bIsInclude then strFront ++ text ++ strBack else text

/-! ## Characters to take -/

/-- The first `n` characters, and all of them for a negative number. -/
def cut (post : CStr) (n : Int) : CStr := if n < 0 then post else post.take n.toNat

theorem cut_prefix (post : CStr) (n : Int) : cut post n <+: post := by
  unfold cut
  split
  · exact List.prefix_rfl
  · exact List.take_prefix _ _

section

variable {post text rest strBack : CStr} {n : Int}

theorem cut_eq_text_iff (hpost : post = text ++ strBack ++ rest) (hb : strBack ≠ []) :
    cut post n = text ↔ n = text.length := by
  have hlen : post.length = text.length + strBack.length + rest.length := by
    rw [hpost, List.length_append, List.length_append]
  have hpos := List.length_pos_iff.mpr hb
  constructor
  · intro h
    have hcut := congrArg List.length h
    unfold cut at hcut
    split at hcut
    · omega
    · rw [List.length_take] at hcut
      omega
  · intro h
    rw [cut, if_neg (by omega), h, Int.toNat_natCast, hpost, List.append_assoc, List.take_left]

theorem cut_eq_nil_iff : cut post n = [] ↔ n = 0 ∨ post = [] := by
  unfold cut
  split
  · exact ⟨Or.inr, fun h => h.resolve_left (by omega)⟩
  · rw [List.take_eq_nil_iff]
    constructor
    · exact fun h => h.imp_left fun h => by omega
    · exact fun h => h.imp_left fun h => by omega

/-- Without the blanks on the left, the right number where the text begins with none. -/
theorem eraseBlanks_cut_eq_text_iff (hpost : post = text ++ strBack ++ rest) (hb : strBack ≠ [])
    (htext : text ≠ []) :
    eraseBlanks (cut post n) = text ↔ n = text.length ∧ post.head? ≠ some 0x20 := by
  rw [← cut_eq_text_iff hpost hb]
  obtain ⟨c, text', rfl⟩ := List.exists_cons_of_ne_nil htext
  have hhead : post.head? = some c := by rw [hpost]; rfl
  rw [hhead, ne_eq, Option.some_inj]
  constructor
  · intro h
    obtain ⟨t, ht⟩ := cut_prefix post n
    cases hcut : cut post n with
    | nil =>
      rw [hcut] at h
      cases h
    | cons d cutTail =>
      rw [hcut] at h ht
      have hd : d = c := by
        rw [← ht] at hhead
        exact Option.some.inj hhead
      subst hd
      -- the text that is left does not begin with a blank, and the text before begins as it does
      have hfirst := List.head?_dropWhile_not (· == 0x20) (d :: cutTail)
      rw [show (d :: cutTail).dropWhile (· == 0x20) = _ from h] at hfirst
      have hne : ¬ (d == 0x20) = true := by simpa using hfirst
      rw [eraseBlanks, @List.dropWhile_cons_of_neg _ (· == 0x20) _ _ hne] at h
      exact ⟨h, by simpa using hne⟩
  · rintro ⟨h, hc⟩
    rw [h, eraseBlanks, List.dropWhile_cons_of_neg (by simpa using hc)]

theorem eraseBlanks_eq_nil_iff {strTmp : CStr} : eraseBlanks strTmp = [] ↔ ∀ c ∈ strTmp, c = 0x20 := by
  rw [eraseBlanks, List.dropWhile_eq_nil_iff]
  simp only [beq_iff_eq]

end

/-! ## Where the markers stand -/

section

variable {strData strFront strBack pre post : CStr} {nPos_R : Nat}

theorem find_eq_some_iff {strSub : CStr} {n : Nat} : find strData strSub = some n ↔
    ∃ l r, breakOn strSub strData = some (l, r) ∧ l.length = n := by
  unfold ExternalInterface.find
  rw [Option.map_eq_some_iff]
  constructor
  · rintro ⟨⟨l, r⟩, h, hn⟩
    exact ⟨l, r, h, hn⟩
  · rintro ⟨l, r, h, hn⟩
    exact ⟨(l, r), h, hn⟩

theorem find_eq_none_iff {strSub : CStr} : find strData strSub = none ↔
    breakOn strSub strData = none := Option.map_eq_none_iff

theorem cutOut_eq (hdata : strData = pre ++ strFront ++ post) (bIsInclude : Bool) :
    cutOut strData pre.length nPos_R strFront strBack bIsInclude =
      some (if bIsInclude = false then cut post (nPos_R - pre.length - strBack.length + 1)
        else cut (strFront ++ post) (nPos_R - pre.length + strBack.length)) := by
  have hlen : strData.length = pre.length + strFront.length + post.length := by
    rw [hdata, List.length_append, List.length_append]
  have hsubstr : ∀ {nPos : Nat} {t : CStr}, nPos ≤ strData.length → strData.drop nPos = t →
      ∀ n, substr strData nPos n = some (cut t n) := by
    intro nPos t hle ht n
    rw [substr, if_pos hle, ExternalInterface.substr, ht, cut]
  have hbehind : strData.drop (pre.length + strFront.length) = post := by
    rw [hdata, ← List.length_append, List.drop_left]
  have hfrom : strData.drop pre.length = strFront ++ post := by
    rw [hdata, List.append_assoc, List.drop_left]
  unfold cutOut
  split
  · exact hsubstr (by omega) hbehind _
  · exact hsubstr (by omega) hfrom _

/-- A back marker that is first found behind the front marker is the one that follows it. -/
theorem back_follows (hdata : strData = pre ++ strFront ++ post)
    (hR : find strData strBack = some nPos_R) (hle : pre.length + strFront.length ≤ nPos_R) :
    ∃ text rest, breakOn strBack post = some (text, rest) ∧
      nPos_R = pre.length + strFront.length + text.length := by
  obtain ⟨l, r, hbreak, rfl⟩ := find_eq_some_iff.mp hR
  rw [hdata] at hbreak
  have hbehind := breakOn_behind hbreak (by rwa [List.length_append])
  refine ⟨_, _, hbehind, ?_⟩
  rw [List.length_drop, List.length_append]
  omega

end

/-! ## What is right -/

/-- No back marker follows, or one at once that is not to be included. -/
def NothingBetween (post strBack : CStr) (bIsInclude : Bool) : Prop :=
  find post strBack = none ∨ bIsInclude = false ∧ find post strBack = some 0

/-- The text that is taken without the markers is the right one: the first back marker stands
behind the front marker and is one character longer, or it begins inside the front marker and the
number of characters happens to be right. -/
def TakesText (nPos_L nPos_R : Nat) (strFront strBack post : CStr) : Prop :=
  nPos_L + strFront.length ≤ nPos_R ∧ strBack.length = strFront.length + 1 ∨
    nPos_R < nPos_L + strFront.length ∧
      match find post strBack with
      | some m => (nPos_R : Int) - nPos_L - strBack.length + 1 = m
      | none => (nPos_R : Int) - nPos_L - strBack.length + 1 = 0 ∨ post = []

/-- Where the copy of `Algorithm.cpp` returns the right text. -/
def Right (strData strFront strBack : CStr) (bIsInclude : Bool) : Prop :=
  ∀ nPos_L nPos_R, find strData strFront = some nPos_L → find strData strBack = some nPos_R →
    let post := strData.drop (nPos_L + strFront.length)
    nPos_R ≤ nPos_L ∧ NothingBetween post strBack bIsInclude ∨
      nPos_L < nPos_R ∧ if bIsInclude then nPos_L + strFront.length ≤ nPos_R
        else TakesText nPos_L nPos_R strFront strBack post

/-- The text that is left without blanks is the right one. -/
def LeavesText (nPos_L nPos_R : Nat) (strBack post : CStr) : Prop :=
  match find post strBack with
  | some (m + 1) =>
    (nPos_R : Int) - nPos_L - strBack.length + 1 = (m + 1 : Nat) ∧ post.head? ≠ some 0x20
  | _ => ∀ c ∈ cut post (nPos_R - nPos_L - strBack.length + 1), c = 0x20

def ClientRight (strData strFront strBack : CStr) (bIsInclude : Bool) : Prop :=
  ∀ nPos_L nPos_R, find strData strFront = some nPos_L → find strData strBack = some nPos_R →
    let post := strData.drop (nPos_L + strFront.length)
    (nPos_L = 0 ∨ nPos_R ≤ nPos_L) ∧ NothingBetween post strBack bIsInclude ∨
      0 < nPos_L ∧ nPos_L < nPos_R ∧
        if bIsInclude then
          nPos_L + strFront.length ≤ nPos_R ∧ strFront.head? ≠ some 0x20
        else LeavesText nPos_L nPos_R strBack post

section

variable {strData strFront strBack pre post : CStr} {nPos_R : Nat} {n : Int}

theorem between_of_front (hL : breakOn strFront strData = some (pre, post)) (bIsInclude : Bool) :
    between strData strFront strBack bIsInclude =
      match breakOn strBack post with
      | none => []
      | some (text, _) => if bIsInclude then strFront ++ text ++ strBack else text := by
  rw [between, hL]

theorem between_eq_nil_iff (hf : strFront ≠ [])
    (hL : breakOn strFront strData = some (pre, post)) (bIsInclude : Bool) :
    between strData strFront strBack bIsInclude = [] ↔
      NothingBetween post strBack bIsInclude := by
  rw [between_of_front hL, NothingBetween, ExternalInterface.find]
  cases breakOn strBack post with
  | none => simp
  | some p =>
    cases bIsInclude with
    | false => simp [List.length_eq_zero_iff]
    | true => simp [hf]

theorem cut_eq_between_iff (hb : strBack ≠ [])
    (hL : breakOn strFront strData = some (pre, post)) :
    cut post n = between strData strFront strBack false ↔
      match find post strBack with
      | some m => n = m
      | none => n = 0 ∨ post = [] := by
  rw [between_of_front hL, ExternalInterface.find]
  cases hback : breakOn strBack post with
  | none => exact cut_eq_nil_iff
  | some p => exact cut_eq_text_iff (breakOn_eq_some hback) hb

theorem takesText_iff (hb : strBack ≠ []) (hL : breakOn strFront strData = some (pre, post))
    (hR : find strData strBack = some nPos_R) :
    cut post (nPos_R - pre.length - strBack.length + 1) =
        between strData strFront strBack false ↔
      TakesText pre.length nPos_R strFront strBack post := by
  by_cases hle : pre.length + strFront.length ≤ nPos_R
  · have hright : TakesText pre.length nPos_R strFront strBack post ↔
        strBack.length = strFront.length + 1 := by
      rw [TakesText, and_iff_right hle]
      exact or_iff_left fun h => absurd h.1 (by omega)
    obtain ⟨text, rest, hback, hpos⟩ := back_follows (breakOn_eq_some hL) hR hle
    have hfind : find post strBack = some text.length := by
      rw [ExternalInterface.find, hback]
      rfl
    rw [hright, cut_eq_between_iff hb hL, hfind]
    show (nPos_R : Int) - pre.length - strBack.length + 1 = (text.length : Nat) ↔ _
    omega
  · rw [cut_eq_between_iff hb hL, TakesText]
    refine ⟨fun h => Or.inr ⟨by omega, h⟩, fun h => ?_⟩
    exact (h.resolve_left fun h => hle h.1).2

/-- With the markers the text is right where the first back marker stands behind the front
marker. -/
theorem include_iff (hf : strFront ≠ []) (hL : breakOn strFront strData = some (pre, post))
    (hR : find strData strBack = some nPos_R) (hlt : pre.length < nPos_R) :
    cut (strFront ++ post) (nPos_R - pre.length + strBack.length) =
        between strData strFront strBack true ↔ pre.length + strFront.length ≤ nPos_R := by
  rw [between_of_front hL, cut, if_neg (by omega)]
  have hcount : ((nPos_R : Int) - pre.length + strBack.length).toNat =
      nPos_R - pre.length + strBack.length := by omega
  rw [hcount]
  by_cases hle : pre.length + strFront.length ≤ nPos_R
  · obtain ⟨text, rest, hback, hpos⟩ := back_follows (breakOn_eq_some hL) hR hle
    have hsplit : strFront ++ post = strFront ++ text ++ strBack ++ rest := by
      rw [breakOn_eq_some hback]
      simp
    have htake : nPos_R - pre.length + strBack.length = (strFront ++ text ++ strBack).length := by
      rw [List.length_append, List.length_append]
      omega
    rw [hback, hsplit, htake, List.take_left]
    exact iff_of_true rfl hle
  · refine iff_of_false (fun h => ?_) hle
    have hlen := congrArg List.length h
    rw [List.length_take, List.length_append] at hlen
    have hpos := List.length_pos_iff.mpr hf
    cases hback : breakOn strBack post with
    | none =>
      rw [hback] at hlen
      simp only [List.length_nil] at hlen
      omega
    | some p =>
      rw [hback] at hlen
      simp only [if_true, List.length_append] at hlen
      omega

end

/-! ## Both copies -/

section

variable {strData strFront strBack pre post : CStr} {nPos_R : Nat} {bIsInclude : Bool}

theorem drop_front (hL : breakOn strFront strData = some (pre, post)) :
    strData.drop (pre.length + strFront.length) = post := by
  rw [breakOn_eq_some hL, ← List.length_append, List.drop_left]

/-- Without a marker both copies return the empty text, and there is none to return. -/
theorem right_of_no_marker (h : find strData strFront = none ∨ find strData strBack = none) :
    getStringBetween strData strFront strBack bIsInclude = some [] ∧
      clientGetStringBetween strData strFront strBack bIsInclude = some [] ∧
      between strData strFront strBack bIsInclude = [] ∧
      Right strData strFront strBack bIsInclude ∧
      ClientRight strData strFront strBack bIsInclude := by
  have hempty : between strData strFront strBack bIsInclude = [] := by
    rcases h with h | h
    · rw [between, find_eq_none_iff.mp h]
    · cases hL : breakOn strFront strData with
      | none => rw [between, hL]
      | some p =>
        have hnone := find_eq_none_iff.mp h
        rw [breakOn_eq_some hL] at hnone
        rw [between_of_front hL, breakOn_append_eq_none hnone]
  have hvacuous : ∀ nPos_L nPos_R, find strData strFront = some nPos_L →
      find strData strBack = some nPos_R → False := by
    intro nPos_L nPos_R hL hR
    rcases h with h | h
    · rw [h] at hL
      cases hL
    · rw [h] at hR
      cases hR
  refine ⟨?_, ?_, hempty, fun nPos_L nPos_R hL hR => (hvacuous nPos_L nPos_R hL hR).elim,
    fun nPos_L nPos_R hL hR => (hvacuous nPos_L nPos_R hL hR).elim⟩
  · unfold getStringBetween
    rcases h with h | h
    · rw [h]
    · rw [h]
      cases find strData strFront <;> rfl
  · unfold clientGetStringBetween
    rcases h with h | h
    · rw [h]
    · rw [h]
      cases find strData strFront <;> rfl

theorem find_front (hL : breakOn strFront strData = some (pre, post)) :
    find strData strFront = some pre.length := find_eq_some_iff.mpr ⟨pre, post, hL, rfl⟩

theorem forall_found_iff {P : Nat → Nat → Prop} (hL : breakOn strFront strData = some (pre, post))
    (hR : find strData strBack = some nPos_R) :
    (∀ nPos_L nPos_R, find strData strFront = some nPos_L → find strData strBack = some nPos_R →
      P nPos_L nPos_R) ↔ P pre.length nPos_R := by
  constructor
  · exact fun h => h _ _ (find_front hL) hR
  · intro h nPos_L nPos_R' hL' hR'
    rw [find_front hL] at hL'
    rw [hR] at hR'
    cases hL'
    cases hR'
    exact h

theorem right_iff (hL : breakOn strFront strData = some (pre, post))
    (hR : find strData strBack = some nPos_R) :
    Right strData strFront strBack bIsInclude ↔
      (nPos_R ≤ pre.length ∧ NothingBetween post strBack bIsInclude ∨
        pre.length < nPos_R ∧ if bIsInclude then pre.length + strFront.length ≤ nPos_R
          else TakesText pre.length nPos_R strFront strBack post) := by
  rw [← drop_front hL]
  exact forall_found_iff hL hR

theorem clientRight_iff (hL : breakOn strFront strData = some (pre, post))
    (hR : find strData strBack = some nPos_R) :
    ClientRight strData strFront strBack bIsInclude ↔
      ((pre.length = 0 ∨ nPos_R ≤ pre.length) ∧ NothingBetween post strBack bIsInclude ∨
        0 < pre.length ∧ pre.length < nPos_R ∧
          if bIsInclude then
            pre.length + strFront.length ≤ nPos_R ∧ strFront.head? ≠ some 0x20
          else LeavesText pre.length nPos_R strBack post) := by
  rw [← drop_front hL]
  exact forall_found_iff hL hR

/-- **The copy of `Algorithm.cpp`.** -/
theorem getStringBetween_iff (hf : strFront ≠ []) (hb : strBack ≠ []) :
    getStringBetween strData strFront strBack bIsInclude =
        some (between strData strFront strBack bIsInclude) ↔
      Right strData strFront strBack bIsInclude := by
  cases hfront : find strData strFront with
  | none =>
    obtain ⟨hcode, -, hempty, hright, -⟩ :=
      @right_of_no_marker strData strFront strBack bIsInclude (Or.inl hfront)
    exact iff_of_true (by rw [hcode, hempty]) hright
  | some nPos_L =>
    cases hR : find strData strBack with
    | none =>
      obtain ⟨hcode, -, hempty, hright, -⟩ :=
        @right_of_no_marker strData strFront strBack bIsInclude (Or.inr hR)
      exact iff_of_true (by rw [hcode, hempty]) hright
    | some nPos_R =>
      obtain ⟨pre, post, hL, rfl⟩ := find_eq_some_iff.mp hfront
      rw [right_iff hL hR, getStringBetween, hfront, hR]
      dsimp only
      by_cases hlt : pre.length < nPos_R
      · rw [if_neg (by omega), cutOut_eq (breakOn_eq_some hL), Option.some_inj,
          and_iff_right hlt, or_iff_right fun h => absurd h.1 (by omega)]
        cases bIsInclude with
        | false => exact takesText_iff hb hL hR
        | true => exact include_iff hf hL hR hlt
      · rw [if_pos (by omega), Option.some_inj, eq_comm, between_eq_nil_iff hf hL,
          and_iff_right (by omega), or_iff_left fun h => hlt h.1]

theorem leavesText_iff (hb : strBack ≠ []) (hL : breakOn strFront strData = some (pre, post)) :
    eraseBlanks (cut post (nPos_R - pre.length - strBack.length + 1)) =
        between strData strFront strBack false ↔
      LeavesText pre.length nPos_R strBack post := by
  rw [between_of_front hL, LeavesText, ExternalInterface.find]
  cases hback : breakOn strBack post with
  | none => exact eraseBlanks_eq_nil_iff
  | some p =>
    obtain ⟨text, rest⟩ := p
    cases text with
    | nil => exact eraseBlanks_eq_nil_iff
    | cons c text =>
      exact eraseBlanks_cut_eq_text_iff (breakOn_eq_some hback) hb (List.cons_ne_nil c text)

/-- A back marker that begins inside the front marker is not a text of blanks. -/
theorem not_all_blanks (hL : breakOn strFront strData = some (pre, post))
    (hR : find strData strBack = some nPos_R) (hlt : pre.length < nPos_R) :
    ¬ ∀ c ∈ (strFront ++ post).take (nPos_R - pre.length + strBack.length), c = 0x20 := by
  intro hall
  obtain ⟨l, r, hbreak, rfl⟩ := find_eq_some_iff.mp hR
  have hfrom : strData.drop pre.length = strFront ++ post := by
    rw [breakOn_eq_some hL, List.append_assoc, List.drop_left]
  have hsplit : strFront ++ post = l.drop pre.length ++ strBack ++ r := by
    rw [← hfrom, breakOn_eq_some hbreak, List.append_assoc, List.append_assoc,
      List.drop_append_of_le_length (by omega)]
  have hcount : l.length - pre.length + strBack.length = (l.drop pre.length ++ strBack).length := by
    rw [List.length_append, List.length_drop]
  rw [hsplit, hcount, List.take_left] at hall
  -- so the marker stands already where the blanks begin
  have hbefore := List.eq_replicate_iff.mpr
    ⟨rfl, fun c hc => hall c (List.mem_append_left strBack hc)⟩
  have hback := List.eq_replicate_iff.mpr
    ⟨rfl, fun c hc => hall c (List.mem_append_right (l.drop pre.length) hc)⟩
  have hearlier : strBack <+: strData.drop pre.length := by
    refine ⟨l.drop pre.length ++ r, ?_⟩
    rw [hfrom, hsplit, hbefore, hback, ← List.append_assoc, List.replicate_append_replicate,
      List.replicate_append_replicate, Nat.add_comm]
  have hle := breakOn_length_le hbreak hearlier
  omega

theorem client_include_iff (hf : strFront ≠ [])
    (hL : breakOn strFront strData = some (pre, post))
    (hR : find strData strBack = some nPos_R) (hlt : pre.length < nPos_R) :
    eraseBlanks (cut (strFront ++ post) (nPos_R - pre.length + strBack.length)) =
        between strData strFront strBack true ↔
      pre.length + strFront.length ≤ nPos_R ∧ strFront.head? ≠ some 0x20 := by
  obtain ⟨c, front, hcons⟩ := List.exists_cons_of_ne_nil hf
  by_cases hle : pre.length + strFront.length ≤ nPos_R
  · have hcut := (include_iff hf hL hR hlt).mpr hle
    obtain ⟨text, rest, hback, -⟩ := back_follows (breakOn_eq_some hL) hR hle
    rw [hcut, and_iff_right hle, between_of_front hL, hback, hcons]
    by_cases hc : c = 0x20
    · refine iff_of_false (fun h => ?_) (fun h => h (by rw [hc]; rfl))
      have hstep : eraseBlanks (c :: front ++ text ++ strBack) =
          eraseBlanks (front ++ text ++ strBack) :=
        List.dropWhile_cons_of_pos (by rw [hc]; rfl)
      have hshort : (eraseBlanks (front ++ text ++ strBack)).length ≤
          (front ++ text ++ strBack).length := (List.dropWhile_suffix _).length_le
      have hlen := congrArg List.length (hstep.symm.trans h)
      simp only [if_true, List.cons_append, List.length_cons] at hlen
      omega
    · refine iff_of_true ?_ fun h => hc (Option.some.inj h)
      exact List.dropWhile_cons_of_neg (by simpa using hc)
  · refine iff_of_false (fun h => ?_) fun h => hle h.1
    have hcount : ((nPos_R : Int) - pre.length + strBack.length).toNat =
        nPos_R - pre.length + strBack.length := by omega
    rw [cut, if_neg (by omega), hcount, between_of_front hL] at h
    cases hback : breakOn strBack post with
    | none =>
      rw [hback] at h
      exact not_all_blanks hL hR hlt (eraseBlanks_eq_nil_iff.mp h)
    | some p =>
      have hshort := (List.dropWhile_suffix (· == 0x20)
        (l := (strFront ++ post).take (nPos_R - pre.length + strBack.length))).length_le
      have hlen := congrArg List.length h
      rw [hback] at hlen
      simp only [if_true, List.length_append] at hlen
      rw [List.length_take] at hshort
      unfold eraseBlanks at hlen
      omega

/-- **The copy of the client.** -/
theorem clientGetStringBetween_iff (hf : strFront ≠ []) (hb : strBack ≠ []) :
    clientGetStringBetween strData strFront strBack bIsInclude =
        some (between strData strFront strBack bIsInclude) ↔
      ClientRight strData strFront strBack bIsInclude := by
  cases hfront : find strData strFront with
  | none =>
    obtain ⟨-, hcode, hempty, -, hright⟩ :=
      @right_of_no_marker strData strFront strBack bIsInclude (Or.inl hfront)
    exact iff_of_true (by rw [hcode, hempty]) hright
  | some nPos_L =>
    cases hR : find strData strBack with
    | none =>
      obtain ⟨-, hcode, hempty, -, hright⟩ :=
        @right_of_no_marker strData strFront strBack bIsInclude (Or.inr hR)
      exact iff_of_true (by rw [hcode, hempty]) hright
    | some nPos_R =>
      obtain ⟨pre, post, hL, rfl⟩ := find_eq_some_iff.mp hfront
      rw [clientRight_iff hL hR, clientGetStringBetween, hfront, hR]
      dsimp only
      by_cases hcut : 0 < pre.length ∧ pre.length < nPos_R
      · rw [if_neg (by omega), cutOut_eq (breakOn_eq_some hL), Option.map_some, Option.some_inj,
          and_iff_right hcut.1, and_iff_right hcut.2, or_iff_right fun h => absurd h.1 (by omega)]
        cases bIsInclude with
        | false => exact leavesText_iff hb hL
        | true => exact client_include_iff hf hL hR hcut.2
      · rw [if_pos (by omega), Option.some_inj, eq_comm, between_eq_nil_iff hf hL,
          and_iff_right (by omega), or_iff_left fun h => hcut ⟨h.1, h.2.1⟩]

theorem getStringBetween_isSome :
    (getStringBetween strData strFront strBack bIsInclude).isSome ∧
      (clientGetStringBetween strData strFront strBack bIsInclude).isSome := by
  cases hfront : find strData strFront with
  | none =>
    obtain ⟨hcode, hclient, -⟩ :=
      @right_of_no_marker strData strFront strBack bIsInclude (Or.inl hfront)
    exact ⟨by rw [hcode]; rfl, by rw [hclient]; rfl⟩
  | some nPos_L =>
    cases hR : find strData strBack with
    | none =>
      obtain ⟨hcode, hclient, -⟩ :=
        @right_of_no_marker strData strFront strBack bIsInclude (Or.inr hR)
      exact ⟨by rw [hcode]; rfl, by rw [hclient]; rfl⟩
    | some nPos_R =>
      obtain ⟨pre, post, hL, rfl⟩ := find_eq_some_iff.mp hfront
      rw [getStringBetween, clientGetStringBetween, hfront, hR]
      dsimp only
      rw [cutOut_eq (breakOn_eq_some hL)]
      constructor
      · split <;> rfl
      · split <;> rfl

end

/-- **Both copies**: none throws, and each returns the right text exactly where its condition
holds. -/
theorem stringBetween_iff (strData strFront strBack : CStr) (bIsInclude : Bool)
    (hf : strFront ≠ []) (hb : strBack ≠ []) :
    ((getStringBetween strData strFront strBack bIsInclude).isSome ∧
      (clientGetStringBetween strData strFront strBack bIsInclude).isSome) ∧
    (getStringBetween strData strFront strBack bIsInclude =
        some (between strData strFront strBack bIsInclude) ↔
      Right strData strFront strBack bIsInclude) ∧
    (clientGetStringBetween strData strFront strBack bIsInclude =
        some (between strData strFront strBack bIsInclude) ↔
      ClientRight strData strFront strBack bIsInclude) :=
  ⟨getStringBetween_isSome, getStringBetween_iff hf hb, clientGetStringBetween_iff hf hb⟩

/-- Markers of one length: one character too many is taken. -/
theorem stringBetween_quoted :
    ((getStringBetween (str "a[b]c") (str "[") (str "]") false).isSome ∧
      (clientGetStringBetween (str "a[b]c") (str "[") (str "]") false).isSome) ∧
    (getStringBetween (str "a[b]c") (str "[") (str "]") false =
        some (between (str "a[b]c") (str "[") (str "]") false) ↔
      Right (str "a[b]c") (str "[") (str "]") false) ∧
    (clientGetStringBetween (str "a[b]c") (str "[") (str "]") false =
        some (between (str "a[b]c") (str "[") (str "]") false) ↔
      ClientRight (str "a[b]c") (str "[") (str "]") false) :=
  stringBetween_iff (str "a[b]c") (str "[") (str "]") false (by decide) (by decide)

/-- Markers of one length, an earlier back marker, and a front marker at the beginning. -/
theorem stringBetween_wrong :
    getStringBetween (str "a[b]c") (str "[") (str "]") false ≠
        some (between (str "a[b]c") (str "[") (str "]") false) ∧
      getStringBetween (str "]a<b]") (str "<") (str "]") true ≠
        some (between (str "]a<b]") (str "<") (str "]") true) ∧
      clientGetStringBetween (str "<a>b</a>") (str "<a>") (str "</a>") false ≠
        some (between (str "<a>b</a>") (str "<a>") (str "</a>") false) := by
  decide

end GB28181.Lib.StringBetween
