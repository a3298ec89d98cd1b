import GB28181.Base.CString

/-!
# Files in text mode

A file is the list of its bytes.  In text mode a line end is written as two bytes and read as one
character.

* `textBytes` — what is written for a text, `readText` — `fread` of one item of some characters,
  `writeAt` — a write at a place of the file;
* `readText_line` — a line is read as it was written;
* `linesFile` — the file of some lines; `linesFile_inj` — lines of one length are told by it;
* `writeAt_append` — a write behind a part of the file.
-/

set_option autoImplicit false

namespace GB28181.Base

def textBytes (s : CStr) : CStr := s.flatMap fun c => if c = 0x0a then [0x0d, 0x0a] else [c]

def getText : CStr → Option (UInt8 × CStr)
  | [] => none
  | [c] => some (c, [])
  | c :: d :: rest => if c = 0x0d ∧ d = 0x0a then some (0x0a, rest) else some (c, d :: rest)

/-- The next `n` characters of a file, and the rest of it. -/
def takeText : Nat → CStr → Option (CStr × CStr)
  | 0, rest => some ([], rest)
  | n + 1, rest =>
    (getText rest).bind fun p => (takeText n p.2).map fun q => (p.1 :: q.1, q.2)

/-- `fread` of one item of `n` characters: the item and the rest of the file.  The character `0x1A`
ends a file in text mode. -/
def readText (n : Nat) (file : CStr) : Option (CStr × CStr) :=
  (takeText n file).filter fun p => !p.1.contains 0x1a

/-- A write of `out` at `pos`. -/
def writeAt (file : CStr) (pos : Nat) (out : CStr) : CStr :=
  file.take pos ++ out ++ file.drop (pos + out.length)

def line (t : CStr) : CStr := t ++ [0x0a]

@[simp] theorem length_line (t : CStr) : (line t).length = t.length + 1 := List.length_append

theorem textBytes_append (s t : CStr) : textBytes (s ++ t) = textBytes s ++ textBytes t :=
  List.flatMap_append

theorem head_textBytes (s : CStr) : (textBytes s).head? ≠ some 0x0a := by
  cases s with
  | nil => simp [textBytes]
  | cons c s =>
    unfold textBytes
    rw [List.flatMap_cons]
    split
    · simp
    · rename_i hc
      simpa using hc

theorem getText_of_ne {c : UInt8} {rest : CStr} (h : rest.head? ≠ some 0x0a) :
    getText (c :: rest) = some (c, rest) := by
  cases rest with
  | nil => rfl
  | cons d rest =>
    rw [getText, if_neg]
    rintro ⟨-, rfl⟩
    exact h rfl

theorem takeText_line (t rest : CStr) :
    takeText (t.length + 1) (textBytes (line t) ++ rest) = some (line t, rest) := by
  induction t with
  | nil => rfl
  | cons c t ih =>
    have hcons : textBytes (line (c :: t)) = textBytes [c] ++ textBytes (line t) :=
      textBytes_append [c] (line t)
    have hget : getText (textBytes (line (c :: t)) ++ rest) =
        some (c, textBytes (line t) ++ rest) := by
      rw [hcons]
      by_cases hc : c = 0x0a
      · rw [hc]
        rfl
      · have hbytes : textBytes [c] = [c] := by simp [textBytes, hc]
        rw [hbytes, List.append_assoc]
        refine @getText_of_ne c (textBytes (line t) ++ rest) ?_
        have hne : textBytes (line t) ≠ [] := by
          rw [line, textBytes_append]
          exact List.append_ne_nil_of_right_ne_nil _ (by decide)
        rw [List.head?_append_of_ne_nil _ hne]
        exact head_textBytes _
    rw [List.length_cons, takeText, hget, Option.bind_some, ih]
    rfl

/-- **A line is read as it was written**, where no character ends the file. -/
theorem readText_line {t : CStr} (h : 0x1a ∉ t) (rest : CStr) :
    readText (t.length + 1) (textBytes (line t) ++ rest) = some (line t, rest) := by
  have hline : 0x1a ∉ line t := by simp [line, h]
  rw [readText, takeText_line, Option.filter_some, if_pos (by simpa using hline)]

def linesFile (ts : List CStr) : CStr := ts.flatMap fun t => textBytes (line t)

theorem linesFile_cons (t : CStr) (ts : List CStr) :
    linesFile (t :: ts) = textBytes (line t) ++ linesFile ts := List.flatMap_cons

theorem linesFile_append (ts us : List CStr) :
    linesFile (ts ++ us) = linesFile ts ++ linesFile us := List.flatMap_append

/-- A file of lines of one length begins with a line of that length: it is the first. -/
theorem linesFile_split {n : Nat} {t rest : CStr} {us : List CStr} (ht : t.length = n)
    (hus : ∀ u ∈ us, u.length = n) (h : linesFile us = textBytes (line t) ++ rest) :
    ∃ vs, us = t :: vs ∧ linesFile vs = rest := by
  have hread := takeText_line t rest
  rw [← h, ht] at hread
  cases us with
  | nil => cases hread
  | cons u us =>
    have hread' := takeText_line u (linesFile us)
    rw [hus u List.mem_cons_self, ← linesFile_cons, hread] at hread'
    obtain ⟨hline, hrest⟩ := Prod.ext_iff.mp (Option.some.inj hread')
    obtain rfl : t = u := List.append_cancel_right hline
    exact ⟨us, rfl, hrest.symm⟩

theorem linesFile_split_append {n : Nat} {ts us : List CStr} {rest : CStr}
    (hts : ∀ t ∈ ts, t.length = n) (hus : ∀ u ∈ us, u.length = n)
    (h : linesFile us = linesFile ts ++ rest) : ∃ vs, us = ts ++ vs ∧ linesFile vs = rest := by
  induction ts generalizing us with
  | nil => exact ⟨us, rfl, h⟩
  | cons t ts ih =>
    rw [linesFile_cons, List.append_assoc] at h
    obtain ⟨us, rfl, hus'⟩ := linesFile_split (hts t List.mem_cons_self) hus h
    obtain ⟨vs, rfl, hvs⟩ := ih (fun t ht => hts t (List.mem_cons_of_mem _ ht))
      (fun u hu => hus u (List.mem_cons_of_mem _ hu)) hus'
    exact ⟨vs, rfl, hvs⟩

theorem length_le_linesFile (ts : List CStr) : ts.length ≤ (linesFile ts).length := by
  induction ts with
  | nil => exact Nat.le_refl 0
  | cons t ts ih =>
    rw [linesFile_cons, line, textBytes_append, List.length_append, List.length_append]
    have : (textBytes [0x0a]).length = 2 := rfl
    rw [List.length_cons]
    omega

/-- **Lines of one length are told by their file.** -/
theorem linesFile_inj {n : Nat} {ts us : List CStr} (hts : ∀ t ∈ ts, t.length = n)
    (hus : ∀ u ∈ us, u.length = n) (h : linesFile us = linesFile ts) : us = ts := by
  obtain ⟨vs, rfl, hvs⟩ := linesFile_split_append hts hus (h.trans (List.append_nil _).symm)
  have hlen := length_le_linesFile vs
  rw [hvs, List.length_nil, Nat.le_zero, List.length_eq_zero_iff] at hlen
  rw [hlen, List.append_nil]

/-- A line without a line end in it takes one byte more than its characters. -/
theorem length_textBytes_line {t : CStr} (h : ∀ c ∈ t, c ≠ 0x0a) :
    (textBytes (line t)).length = t.length + 2 := by
  have htext : textBytes t = t := by
    unfold textBytes
    rw [List.flatMap_congr fun c hc => if_neg (h c hc)]
    exact List.flatMap_singleton' t
  rw [line, textBytes_append, htext, List.length_append]
  rfl

/-- **A write** behind a part of the file. -/
theorem writeAt_append (pre rest out : CStr) :
    writeAt (pre ++ rest) pre.length out = pre ++ (out ++ rest.drop out.length) := by
  rw [writeAt, List.take_left, List.append_assoc, ← List.drop_drop, List.drop_left]

end GB28181.Base
