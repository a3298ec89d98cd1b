import GB28181.Base.Store
import GB28181.Base.Token
import Mathlib.Data.List.TakeWhile

/-!
# The answers of the simulator (`SipSimulator/Common/SipParser.cpp`, `Task.cpp`, `LoginHandler.cpp`)

`get_line` looks for the name of a header in the whole message, and takes the rest of the line where
it first stands: in the start line, in the value of another header, in a longer name.

* `getLine_lines` — over a text of lines the first one that mentions the name decides;
* `Request.Clear` — that line goes on from the name as the header line does;
* `answers_iff` — each of the five lines is found, and both 200 answers carry the five,
  **exactly where the names are clear**.
-/

set_option autoImplicit false

namespace GB28181.SipSimulator

open GB28181.Base

/-! ## `SipParser.cpp` -/

/-- `CSipParser::get_line`.  The text before the first occurrence is as long as the position that
`CString::Find` returns in a code page of single bytes. -/
def getLine (pszFeildName strMsg strLine : CStr) : CStr :=
  match breakOn pszFeildName strMsg with
  | none => strLine
  | some (before, _) =>
    let strLine := strMsg.drop before.length
    match breakOn (str "\r") strLine with
    | some (before, _) => if 0 < before.length then strLine.take before.length else strLine
    | none => strLine

/-! ## `Task.cpp` and `LoginHandler.cpp` -/

/-- `CString::Format` with `%s` only. -/
def format : CStr → List CStr → CStr
  | 0x25 :: 0x73 :: fmt, arg :: args => cStr arg ++ format fmt args
  | c :: fmt, args => c :: format fmt args
  | [], _ => []

def resFormat : CStr :=
  str "SIP/2.0 200 OK\r\n%s\r\n%s\r\n%s\r\n%s\r\n%s\r\nContent-Length: 0\r\n\r\n"

def registerAnswerUnauthorized : CStr :=
  str "SIP/2.0 401 Unauthorized\r\n" ++
  str "%s\r\n%s\r\n%s\r\n%s\r\n%s\r\n" ++
  str "WWW-Authenticate: Digest realm=\"3401000000\",nonce=\"b4f7ea506c2485a1\"\r\n" ++
  str "Content-Length: 0\r\n"

def registerAnswerOK : CStr :=
  str "SIP/2.0 200 OK\r\n" ++
  str "%s\r\n%s\r\n%s\r\n%s\r\n%s\r\n" ++
  str "Date: 2014-03-13T15:49:17.087\r\n" ++
  str "Content-Length: 0\r\n"

/-- The names in the order in which both functions look for them and write them. -/
def fieldNames : List CStr := [str "Via", str "From", str "To", str "Call-ID", str "CSeq"]

/-- `strVia`, `strFrom`, `strTo`, `strCallID` and `strCSeq`, which are empty before. -/
def fieldLines (strMsg : CStr) : List CStr := fieldNames.map fun name => getLine name strMsg []

/-- One turn of `CTask::pfnRecvProc` with the data that `recvfrom` returns: the buffer and the
answer; `none` where the terminator is written behind the buffer. -/
def pfnRecvProc (buf data : CStr) : Option (CStr × Option CStr) :=
  if data = [] then some (buf, none)
  else
    (storeEnd buf 0 data).map fun (buf, _) =>
      let strMsg := cStr buf
      (buf, if buf.take 4 = (str "MESSAGE").take 4 then
        some (format resFormat (fieldLines strMsg)) else none)

/-- One turn of `CLoginHandler::WaitLogin`; an answer comes with `bIsComplated`. -/
def waitLogin (buf data : CStr) : Option (CStr × Option (CStr × Bool)) :=
  if data = [] then some (buf, none)
  else
    (storeEnd buf 0 data).map fun (buf, _) =>
      let strMsg := cStr buf
      (buf, if (breakOn (str "REGISTER") strMsg).isSome then
        if (breakOn (str "Authorization") strMsg).isNone then
          some (format registerAnswerUnauthorized (fieldLines strMsg), false)
        else some (format registerAnswerOK (fieldLines strMsg), true)
      else none)

/-! ## Requests -/

/-- A line of a message, without the line end. -/
def IsLine (l : CStr) : Prop := 0 ∉ l ∧ 0x0d ∉ l ∧ 0x0a ∉ l

instance (l : CStr) : Decidable (IsLine l) := inferInstanceAs (Decidable (_ ∧ _ ∧ _))

def crlf : CStr := str "\r\n"

/-- A header with this name, in any case and with blanks before the colon. -/
def isHeader (name line : CStr) : Bool :=
  stricmpEq (line.take name.length) name &&
    ((line.drop name.length).dropWhile (fun c => c == 0x20 || c == 0x09)).head? == some 0x3a

/-- A request with any header lines, of which each of the five occurs once. -/
structure Request where
  startLine : CStr
  lines : List CStr
  body : CStr
  isLine : ∀ l ∈ startLine :: lines, IsLine l
  once : ∀ name ∈ fieldNames, (lines.filter (isHeader name)).length = 1

namespace Request

def text (r : Request) : CStr :=
  (r.startLine :: r.lines).flatMap (· ++ crlf) ++ crlf ++ r.body

def headerLine (r : Request) (name : CStr) : CStr := ((r.lines.filter (isHeader name)).head?).getD []

end Request

/-- A line from the first place on where the name stands in it. -/
def lineFrom (name line : CStr) : Option CStr := (breakOn name line).map fun p => name ++ p.2

/-- The first line that mentions the name, be it the start line, goes on from there as the header
line does. -/
def Request.Clear (r : Request) (name : CStr) : Prop :=
  (r.startLine :: r.lines).findSome? (lineFrom name) = some (r.headerLine name)

instance (r : Request) (name : CStr) : Decidable (r.Clear name) :=
  inferInstanceAs (Decidable (_ = _))

/-! ## The line that is found -/

section

variable {name msg strLine : CStr}

theorem getLine_of_some {l r : CStr} (hne : name ≠ []) (hcr : 0x0d ∉ name)
    (h : breakOn name msg = some (l, r)) :
    getLine name msg strLine = name ++ r.takeWhile (· ≠ 0x0d) := by
  have hdrop : msg.drop l.length = name ++ r := by
    rw [breakOn_eq_some h, List.append_assoc, List.drop_left]
  rw [getLine, h]
  dsimp only
  rw [hdrop]
  by_cases hr : 0x0d ∈ r
  · obtain ⟨t, rest, rfl, ht⟩ : ∃ t rest, r = t ++ 0x0d :: rest ∧ 0x0d ∉ t :=
      List.eq_append_cons_of_mem hr
    have hfirst : breakOn (str "\r") (name ++ (t ++ 0x0d :: rest)) = some (name ++ t, rest) := by
      rw [← List.append_assoc]
      exact breakOn_singleton (by rw [List.mem_append]; exact not_or.mpr ⟨hcr, ht⟩)
    have hpos : 0 < (name ++ t).length := by
      rw [List.length_append]
      have := List.length_pos_of_ne_nil hne
      omega
    rw [hfirst]
    dsimp only
    rw [if_pos hpos, ← List.append_assoc, List.take_left, takeWhile_ne_append_cons ht]
  · have hnone : breakOn (str "\r") (name ++ r) = none := by
      rw [breakOn_eq_none_iff]
      show ¬ [0x0d] <:+: name ++ r
      rw [List.singleton_infix_iff, List.mem_append]
      exact not_or.mpr ⟨hcr, hr⟩
    rw [hnone, takeWhile_ne_eq_self_iff.mpr hr]

theorem getLine_of_none (h : breakOn name msg = none) : getLine name msg strLine = strLine := by
  rw [getLine, h]

theorem getLine_append_cons {l r : CStr} {c : UInt8} (hne : name ≠ []) (hcr : 0x0d ∉ name)
    (hc : c ∉ name) (h : breakOn name l = none) :
    getLine name (l ++ c :: r) strLine = getLine name r strLine := by
  have hskip := breakOn_append_cons hne hc h r
  cases hr : breakOn name r with
  | none =>
    rw [hr] at hskip
    rw [getLine_of_none hskip, getLine_of_none hr]
  | some p =>
    rw [hr] at hskip
    rw [getLine_of_some hne hcr hskip, getLine_of_some hne hcr hr]

/-- **Over lines** the first one that mentions the name decides. -/
theorem getLine_lines {lines : List CStr} (hne : name ≠ []) (hcr : 0x0d ∉ name) (hlf : 0x0a ∉ name)
    (hlines : ∀ l ∈ lines, 0x0d ∉ l) (rest : CStr) :
    getLine name (lines.flatMap (· ++ crlf) ++ rest) strLine =
      (lines.findSome? (lineFrom name)).getD (getLine name rest strLine) := by
  induction lines with
  | nil => rfl
  | cons line lines ih =>
    have htext : (line :: lines).flatMap (· ++ crlf) ++ rest =
        line ++ 0x0d :: 0x0a :: (lines.flatMap (· ++ crlf) ++ rest) := by
      rw [List.flatMap_cons, List.append_assoc, List.append_assoc]
      rfl
    rw [htext, List.findSome?_cons, lineFrom]
    cases hline : breakOn name line with
    | none =>
      have hempty : breakOn name [] = none := by rw [breakOn, if_neg hne]
      rw [getLine_append_cons hne hcr hcr hline, ← List.nil_append (0x0a :: _),
        getLine_append_cons hne hcr hlf hempty,
        ih fun l hl => hlines l (List.mem_cons_of_mem line hl)]
      rfl
    | some p =>
      have hp : 0x0d ∉ p.2 := fun hp => by
        refine hlines line List.mem_cons_self ?_
        rw [breakOn_eq_some hline]
        exact List.mem_append_right _ hp
      rw [getLine_of_some hne hcr (breakOn_append_of_some hline _), takeWhile_ne_append_cons hp]
      rfl

end

/-! ## The names in a request -/

theorem fieldNames_spec : ∀ name ∈ fieldNames, name ≠ [] ∧ 0x0d ∉ name ∧ 0x0a ∉ name := by decide

theorem ne_nil_of_isHeader {name line : CStr} (h : isHeader name line = true) : line ≠ [] := by
  rintro rfl
  simp [isHeader] at h

namespace Request

variable (r : Request)

theorem headerLine_spec {name : CStr} (hname : name ∈ fieldNames) :
    r.headerLine name ∈ r.lines ∧ isHeader name (r.headerLine name) = true := by
  obtain ⟨line, hline⟩ := List.length_eq_one_iff.mp (r.once name hname)
  have hmem : line ∈ r.lines.filter (isHeader name) := by
    rw [hline]
    exact List.mem_singleton_self line
  have heq : r.headerLine name = line := by
    rw [headerLine, hline]
    rfl
  rw [heq]
  exact List.mem_filter.mp hmem

theorem headerLine_isLine {name : CStr} (hname : name ∈ fieldNames) :
    IsLine (r.headerLine name) :=
  r.isLine _ (List.mem_cons_of_mem r.startLine (r.headerLine_spec hname).1)

theorem cStr_text : cStr r.text =
    (r.startLine :: r.lines).flatMap (· ++ crlf) ++ (crlf ++ cStr r.body) := by
  have happend : ∀ s t : CStr, 0 ∉ s → cStr (s ++ t) = s ++ cStr t := fun s t hs =>
    List.takeWhile_append_of_pos (decide_ne_of_notMem hs)
  have hlines : 0 ∉ (r.startLine :: r.lines).flatMap (· ++ crlf) := by
    rw [List.mem_flatMap]
    rintro ⟨l, hl, h⟩
    rcases List.mem_append.mp h with h | h
    · exact (r.isLine l hl).1 h
    · exact absurd h (by decide)
  rw [text, List.append_assoc, happend _ _ hlines, happend crlf r.body (by decide)]

/-- **The line is found** exactly where the name is clear. -/
theorem getLine_iff {name : CStr} (hname : name ∈ fieldNames) :
    getLine name (cStr r.text) [] = r.headerLine name ↔ r.Clear name := by
  obtain ⟨hne, hcr, hlf⟩ := fieldNames_spec name hname
  obtain ⟨hmem, hheader⟩ := r.headerLine_spec hname
  rw [cStr_text, getLine_lines hne hcr hlf fun l hl => (r.isLine l hl).2.1, Clear]
  cases hfind : (r.startLine :: r.lines).findSome? (lineFrom name) with
  | some line => rw [Option.getD_some, Option.some_inj]
  | none =>
    -- the name is looked for behind the lines, and the header line does not mention it
    refine iff_of_false ?_ nofun
    have hline : breakOn name (r.headerLine name) = none := by
      have h := List.findSome?_eq_none_iff.mp hfind _ (List.mem_cons_of_mem _ hmem)
      exact Option.map_eq_none_iff.mp h
    rw [Option.getD_none]
    intro h
    cases hrest : breakOn name (crlf ++ cStr r.body) with
    | none =>
      rw [getLine_of_none hrest] at h
      exact ne_nil_of_isHeader hheader h.symm
    | some p =>
      rw [getLine_of_some hne hcr hrest] at h
      refine breakOn_eq_none_iff.mp hline ?_
      rw [← h]
      exact (List.prefix_append name _).isInfix

end Request

/-! ## The answers -/

section

theorem format_append {part : CStr} (h : 0x25 ∉ part) (fmt : CStr) (args : List CStr) :
    format (part ++ fmt) args = part ++ format fmt args := by
  induction part with
  | nil => rfl
  | cons c part ih =>
    rw [List.mem_cons, not_or] at h
    have hc : format (c :: (part ++ fmt)) args = c :: format (part ++ fmt) args := by
      rw [format]
      exact fun _ _ _ _ hc _ => h.1 hc.symm
    rw [List.cons_append, hc, ih h.2]
    rfl

theorem format_lines {part : CStr} (h : 0x25 ∉ part) (args : List CStr) :
    format ((args.flatMap fun _ => str "%s\r\n") ++ part) args =
      args.flatMap (cStr · ++ crlf) ++ part := by
  induction args with
  | nil =>
    have hpart := format_append h [] []
    rw [List.append_nil] at hpart
    exact hpart.trans (List.append_nil part)
  | cons arg args ih =>
    rw [List.flatMap_cons, List.flatMap_cons, List.append_assoc, List.append_assoc, ← ih]
    show cStr arg ++ format (crlf ++ _) args = _
    rw [format_append (by decide), List.append_assoc]

theorem flatMap_crlf_inj {rest : CStr} : ∀ {ls ls' : List CStr}, ls.length = ls'.length →
    (∀ l ∈ ls, 0x0d ∉ l) → (∀ l ∈ ls', 0x0d ∉ l) →
    ls.flatMap (· ++ crlf) ++ rest = ls'.flatMap (· ++ crlf) ++ rest → ls = ls'
  | [], [], _, _, _, _ => rfl
  | l :: ls, l' :: ls', hlen, hl, hl', h => by
    have hcut : ∀ {k : CStr} {ks : List CStr}, 0x0d ∉ k →
        breakOn [0x0d] ((k :: ks).flatMap (· ++ crlf) ++ rest) =
          some (k, 0x0a :: (ks.flatMap (· ++ crlf) ++ rest)) := by
      intro k ks hk
      rw [List.flatMap_cons, List.append_assoc, List.append_assoc]
      exact breakOn_singleton hk
    have heq := @hcut l ls (hl l List.mem_cons_self)
    rw [h, hcut (hl' l' List.mem_cons_self)] at heq
    obtain ⟨rfl, htail⟩ := Prod.mk.inj (Option.some.inj heq)
    rw [flatMap_crlf_inj (Nat.succ.inj hlen) (fun k hk => hl k (List.mem_cons_of_mem l' hk))
      (fun k hk => hl' k (List.mem_cons_of_mem l' hk)) (List.cons.inj htail).2.symm]

/-- A format with a line for each of the five. -/
structure IsAnswer (fmt head tail : CStr) : Prop where
  eq : fmt = head ++ ((fieldNames.flatMap fun _ => str "%s\r\n") ++ tail)
  head : 0x25 ∉ head
  tail : 0x25 ∉ tail

theorem isAnswer_resFormat :
    IsAnswer resFormat (str "SIP/2.0 200 OK\r\n") (str "Content-Length: 0\r\n\r\n") :=
  ⟨by decide, by decide, by decide⟩

theorem isAnswer_registerAnswerOK : IsAnswer registerAnswerOK (str "SIP/2.0 200 OK\r\n")
    (str "Date: 2014-03-13T15:49:17.087\r\nContent-Length: 0\r\n") :=
  ⟨by decide, by decide, by decide⟩

theorem IsAnswer.format_eq {fmt head tail : CStr} (h : IsAnswer fmt head tail) (f : CStr → CStr) :
    format fmt (fieldNames.map f) =
      head ++ ((fieldNames.map f).flatMap (cStr · ++ crlf) ++ tail) := by
  have hlines : (fieldNames.flatMap fun _ => str "%s\r\n") =
      (fieldNames.map f).flatMap fun _ => str "%s\r\n" := by rw [List.flatMap_map]
  rw [h.eq, format_append h.head, hlines, format_lines h.tail]

theorem IsAnswer.format_inj {fmt head tail : CStr} (h : IsAnswer fmt head tail) {f g : CStr → CStr}
    (hf : ∀ name ∈ fieldNames, 0 ∉ f name ∧ 0x0d ∉ f name)
    (hg : ∀ name ∈ fieldNames, 0 ∉ g name ∧ 0x0d ∉ g name) :
    format fmt (fieldNames.map f) = format fmt (fieldNames.map g) ↔
      ∀ name ∈ fieldNames, f name = g name := by
  have hseen : ∀ {k : CStr → CStr}, (∀ name ∈ fieldNames, 0 ∉ k name ∧ 0x0d ∉ k name) →
      (fieldNames.map k).flatMap (cStr · ++ crlf) = (fieldNames.map k).flatMap (· ++ crlf) := by
    intro k hk
    rw [List.flatMap_map, List.flatMap_map]
    exact List.flatMap_congr fun name hname => by rw [cStr_eq_self (hk name hname).1]
  have hline : ∀ {k : CStr → CStr}, (∀ name ∈ fieldNames, 0 ∉ k name ∧ 0x0d ∉ k name) →
      ∀ l ∈ fieldNames.map k, 0x0d ∉ l := by
    intro k hk l hl
    obtain ⟨name, hname, rfl⟩ := List.mem_map.mp hl
    exact (hk name hname).2
  rw [h.format_eq, h.format_eq, List.append_cancel_left_eq, hseen hf, hseen hg]
  constructor
  · intro heq
    have hmap := flatMap_crlf_inj (by rw [List.length_map, List.length_map]) (hline hf) (hline hg) heq
    exact List.map_inj_left.mp hmap
  · intro heq
    rw [List.map_inj_left.mpr heq]

theorem getLine_clean {name msg : CStr} (hne : name ≠ []) (hcr : 0x0d ∉ name) (hmsg : 0 ∉ msg) :
    0 ∉ getLine name msg [] ∧ 0x0d ∉ getLine name msg [] := by
  cases h : breakOn name msg with
  | none =>
    rw [getLine_of_none h]
    exact ⟨List.not_mem_nil, List.not_mem_nil⟩
  | some p =>
    rw [getLine_of_some hne hcr h]
    rw [breakOn_eq_some h] at hmsg
    simp only [List.mem_append, not_or] at hmsg ⊢
    exact ⟨⟨hmsg.1.2, fun h0 => hmsg.2 ((List.takeWhile_prefix _).subset h0)⟩, hcr,
      not_mem_takeWhile_ne 0x0d p.2⟩

end

namespace Request

variable (r : Request) {buf : CStr}

theorem four_le_length : 4 ≤ r.text.length := by
  rw [text, List.flatMap_cons]
  simp only [List.length_append]
  have hcrlf : crlf.length = 2 := by decide
  omega

theorem received (hbuf : buf.length = 4096) (hsize : r.text.length ≤ 4095) :
    ∃ buf' n, storeEnd buf 0 r.text = some (buf', n) ∧ cStr buf' = cStr r.text ∧
      buf'.take 4 = r.text.take 4 := by
  have hover : overwrite buf 0 (r.text ++ [0]) =
      r.text ++ 0 :: buf.drop (r.text ++ [0]).length := by
    rw [overwrite, List.take_zero, List.nil_append, Nat.zero_add, List.append_assoc]
    rfl
  refine ⟨_, _, by rw [storeEnd_eq, if_pos (by omega)], ?_, ?_⟩
  · rw [hover, cStr_append_zero]
  · rw [hover, List.take_append_of_le_length r.four_le_length]

/-- An answer carries the five lines exactly where the names are clear. -/
theorem format_iff {fmt head tail : CStr} (h : IsAnswer fmt head tail) :
    format fmt (fieldLines (cStr r.text)) = format fmt (fieldNames.map r.headerLine) ↔
      ∀ name ∈ fieldNames, r.Clear name := by
  have hfound : ∀ name ∈ fieldNames, 0 ∉ getLine name (cStr r.text) [] ∧
      0x0d ∉ getLine name (cStr r.text) [] := fun name hname =>
    getLine_clean (fieldNames_spec name hname).1 (fieldNames_spec name hname).2.1 (not_mem_takeWhile_ne 0 r.text)
  have hline : ∀ name ∈ fieldNames, 0 ∉ r.headerLine name ∧ 0x0d ∉ r.headerLine name :=
    fun name hname => ⟨(r.headerLine_isLine hname).1, (r.headerLine_isLine hname).2.1⟩
  rw [fieldLines, h.format_inj hfound hline]
  exact forall₂_congr fun name hname => r.getLine_iff hname

end Request

theorem isSome_breakOn_iff {token s : CStr} : (breakOn token s).isSome = true ↔ token <:+: s := by
  rw [← not_iff_not, Bool.not_eq_true, Option.isSome_eq_false_iff, Option.isNone_iff_eq_none,
    breakOn_eq_none_iff]

/-- **Every request** that the buffer holds: each line is found exactly where its name is clear, and
the 200 answers carry the five lines exactly where the five names are. -/
theorem answers_iff (r : Request) (buf : CStr) (hbuf : buf.length = 4096)
    (hsize : r.text.length ≤ 4095) :
    (∃ buf' n, storeEnd buf 0 r.text = some (buf', n) ∧ ∀ name ∈ fieldNames,
      (getLine name (cStr buf') [] = r.headerLine name ↔ r.Clear name)) ∧
    ((pfnRecvProc buf r.text).map Prod.snd =
        some (some (format resFormat (fieldNames.map r.headerLine))) ↔
      r.text.take 4 = str "MESS" ∧ ∀ name ∈ fieldNames, r.Clear name) ∧
    ((waitLogin buf r.text).map Prod.snd =
        some (some (format registerAnswerOK (fieldNames.map r.headerLine), true)) ↔
      str "REGISTER" <:+: cStr r.text ∧ str "Authorization" <:+: cStr r.text ∧
        ∀ name ∈ fieldNames, r.Clear name) := by
  obtain ⟨buf', n, hstore, hseen, htake⟩ := r.received hbuf hsize
  have hne : r.text ≠ [] := List.ne_nil_of_length_pos (by have := r.four_le_length; omega)
  refine ⟨⟨buf', n, hstore, fun name hname => ?_⟩, ?_, ?_⟩
  · rw [hseen]
    exact r.getLine_iff hname
  · rw [pfnRecvProc, if_neg hne, hstore, Option.map_some, Option.map_some, Option.some_inj,
      ← r.format_iff isAnswer_resFormat, ← htake]
    show (if buf'.take 4 = str "MESS" then _ else _) = _ ↔ _
    rw [hseen]
    split
    · rename_i hmess
      rw [Option.some_inj, and_iff_right hmess]
    · rename_i hmess
      exact iff_of_false nofun fun h => hmess h.1
  · rw [waitLogin, if_neg hne, hstore, Option.map_some, Option.map_some, Option.some_inj,
      ← r.format_iff isAnswer_registerAnswerOK, ← isSome_breakOn_iff, ← isSome_breakOn_iff]
    dsimp only
    rw [hseen]
    split
    · rename_i hreg
      rw [and_iff_right hreg]
      split
      · rename_i hauth
        rw [Option.isNone_iff_eq_none] at hauth
        rw [hauth]
        simp
      · rename_i hauth
        rw [Option.isNone_iff_eq_none, ← ne_eq, Option.ne_none_iff_isSome] at hauth
        rw [and_iff_right hauth, Option.some_inj, Prod.mk.injEq, and_iff_left rfl]
    · rename_i hreg
      exact iff_of_false nofun fun h => hreg h.1

def tonyRequest : Request where
  startLine := str "MESSAGE sip:34020000002000000001@3402000000 SIP/2.0"
  lines := [str "Via: SIP/2.0/UDP 192.168.3.135:5060;rport;branch=z9hG4bK1967686311",
    str "From: \"Tony\" <sip:34020000001180000002@3402000000>;tag=1753065625",
    str "To: <sip:34020000002000000001@3402000000>", str "Call-ID: 1481588382",
    str "CSeq: 20 MESSAGE", str "Content-Length: 0"]
  body := []
  isLine := by decide +kernel
  once := by decide +kernel

theorem answers_tony :
    (∃ buf' n, storeEnd (List.replicate 4096 0) 0 tonyRequest.text = some (buf', n) ∧
      ∀ name ∈ fieldNames,
        (getLine name (cStr buf') [] = tonyRequest.headerLine name ↔ tonyRequest.Clear name)) ∧
    ((pfnRecvProc (List.replicate 4096 0) tonyRequest.text).map Prod.snd =
        some (some (format resFormat (fieldNames.map tonyRequest.headerLine))) ↔
      tonyRequest.text.take 4 = str "MESS" ∧ ∀ name ∈ fieldNames, tonyRequest.Clear name) ∧
    ((waitLogin (List.replicate 4096 0) tonyRequest.text).map Prod.snd =
        some (some (format registerAnswerOK (fieldNames.map tonyRequest.headerLine), true)) ↔
      str "REGISTER" <:+: cStr tonyRequest.text ∧
        str "Authorization" <:+: cStr tonyRequest.text ∧
        ∀ name ∈ fieldNames, tonyRequest.Clear name) :=
  answers_iff tonyRequest (List.replicate 4096 0) List.length_replicate (by decide +kernel)

/-- `To` is found in the display name. -/
theorem answers_wrong : tonyRequest.text.length ≤ 4095 ∧
    getLine (str "To") (cStr tonyRequest.text) [] =
      str "Tony\" <sip:34020000001180000002@3402000000>;tag=1753065625" ∧
    getLine (str "To") (cStr tonyRequest.text) [] ≠ tonyRequest.headerLine (str "To") ∧
    format resFormat (fieldLines (cStr tonyRequest.text)) ≠
      format resFormat (fieldNames.map tonyRequest.headerLine) := by
  decide +kernel

end GB28181.SipSimulator
