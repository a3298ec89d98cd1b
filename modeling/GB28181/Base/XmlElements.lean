import GB28181.Base.XmlLines

/-!
# What a document says of its elements

A program that uses a document asks for an element by its name and for the text in it, for an
attribute, or for all elements of a name, one after another.

* `textOf`, `attributeOf`, `elements` — what it is given, among the pieces of a document;
* `textOf_start` — the text is known as soon as the element is opened and the next markup comes;
* `elements_flatten`, `textOf_lines` — what is found in a list of elements written line by line;
* `valueOf` — the text that the lines have for a name.
-/

set_option autoImplicit false

namespace GB28181.Base.Xml

def isStart (n : CStr) : Token → Bool
  | .start m _ => m == n
  | _ => false

def isStop (n : CStr) : Token → Bool
  | .stop m => m == n
  | _ => false

/-- The text at the beginning of the first element with a name; an element that is not there has
the empty one. -/
def textOf (n : CStr) (ts : List Token) : CStr :=
  match ts.dropWhile fun t => !isStart n t with
  | _ :: .text v :: _ => v
  | _ => []

/-- An attribute of the first element with a name. -/
def attributeOf (n a : CStr) (ts : List Token) : Option CStr :=
  (ts.find? (isStart n)).bind fun
    | .start _ attributes => attributes.lookup a
    | _ => none

/-- What is in the elements with a name. -/
def elements (n : CStr) : List Token → List (List Token)
  | [] => []
  | t :: ts =>
    if isStart n t = true then (ts.takeWhile fun t => !isStop n t) :: elements n ts
    else elements n ts

/-! ## Pieces of other elements -/

section pieces

variable {n : CStr} {p ts : List Token}

theorem textOf_append (hp : ∀ t ∈ p, isStart n t = false) :
    textOf n (p ++ ts) = textOf n ts := by
  have hdrop : (p ++ ts).dropWhile (fun t => !isStart n t) =
      ts.dropWhile fun t => !isStart n t :=
    List.dropWhile_append_of_pos fun t ht => by rw [hp t ht]; rfl
  rw [textOf, hdrop, ← textOf]

theorem attributeOf_append {a : CStr} (hp : ∀ t ∈ p, isStart n t = false) :
    attributeOf n a (p ++ ts) = attributeOf n a ts := by
  have hnone : p.find? (isStart n) = none :=
    List.find?_eq_none.mpr fun t ht => by rw [hp t ht]; exact Bool.false_ne_true
  rw [attributeOf, List.find?_append, hnone, Option.none_or, ← attributeOf]

theorem elements_start {attributes : List (CStr × CStr)} :
    elements n (.start n attributes :: ts) = (ts.takeWhile fun t => !isStop n t) :: elements n ts :=
  if_pos (beq_self_eq_true n)

theorem elements_other {t : Token} (ht : isStart n t = false) :
    elements n (t :: ts) = elements n ts := if_neg (by rw [ht]; exact Bool.false_ne_true)

theorem elements_append (hp : ∀ t ∈ p, isStart n t = false) :
    elements n (p ++ ts) = elements n ts := by
  induction p with
  | nil => rfl
  | cons t p ih =>
    obtain ⟨ht, hp⟩ := List.forall_mem_cons.mp hp
    rw [List.cons_append, elements_other ht, ih hp]

theorem textOf_start {u : CStr} {attributes : List (CStr × CStr)}
    (hts : ∀ t ∈ ts.head?, ∀ w, t ≠ .text w) :
    textOf n (.start n attributes :: (textToken u ++ ts)) = u := by
  have hstart : isStart n (.start n attributes) = true := beq_self_eq_true n
  rw [textOf, List.dropWhile_cons_of_neg (by rw [hstart]; exact Bool.false_ne_true)]
  by_cases hu : u = []
  · have hnone : textToken u = [] := if_pos hu
    rw [hnone, hu]
    cases ts with
    | nil => rfl
    | cons t ts =>
      cases t with
      | text w => exact absurd rfl (hts _ rfl w)
      | _ => rfl
  · have hread : textToken u = [.text u] := if_neg hu
    rw [hread]
    rfl

end pieces

/-! ## Lines -/

def Line.name : Line → CStr
  | .leaf n _ => n
  | .start n _ => n
  | .stop n => n

section lines

variable {n : CStr} {lines : List Line}

theorem quiet_lineTokens (h : ∀ l ∈ lines, l.name ≠ n) :
    ∀ t ∈ lineTokens lines, isStart n t = false ∧ isStop n t = false := by
  intro t ht
  obtain ⟨l, hl, ht⟩ := List.mem_flatMap.mp ht
  have hname : (l.name == n) = false := beq_eq_false_iff_ne.mpr (h l hl)
  rcases List.mem_cons.mp ht with rfl | ht
  · exact ⟨rfl, rfl⟩
  · cases l with
    | leaf m v =>
      rcases List.mem_cons.mp ht with rfl | ht
      · exact ⟨hname, rfl⟩
      · rcases List.mem_append.mp ht with ht | ht
        · unfold textToken at ht
          split_ifs at ht
          · cases ht
          · rw [List.mem_singleton.mp ht]
            exact ⟨rfl, rfl⟩
        · rw [List.mem_singleton.mp ht]
          exact ⟨rfl, hname⟩
    | start m attributes =>
      rw [List.mem_singleton.mp ht]
      exact ⟨hname, rfl⟩
    | stop m =>
      rw [List.mem_singleton.mp ht]
      exact ⟨rfl, hname⟩

theorem not_isStart_lineTokens (h : ∀ l ∈ lines, l.name ≠ n) :
    ∀ t ∈ lineTokens lines, isStart n t = false := fun t ht => (quiet_lineTokens h t ht).1

theorem lineTokens_append (lines lines' : List Line) :
    lineTokens (lines ++ lines') = lineTokens lines ++ lineTokens lines' := List.flatMap_append

/-- What is between the tags of an element whose lines these are. -/
def contentTokens (lines : List Line) : List Token := lineTokens lines ++ [.text [0x0a]]

theorem elements_flatten {inners : List (List Line)}
    (h : ∀ inner ∈ inners, ∀ l ∈ inner, l.name ≠ n) (ts : List Token) :
    elements n (lineTokens (inners.map fun inner => element n [] inner).flatten ++ ts) =
      inners.map contentTokens ++ elements n ts := by
  induction inners with
  | nil => rfl
  | cons inner inners ih =>
    obtain ⟨hinner, hinners⟩ := List.forall_mem_cons.mp h
    have hquiet := quiet_lineTokens hinner
    have hstop : isStop n (.stop n) = true := beq_self_eq_true n
    rw [List.map_cons, List.flatten_cons, lineTokens_append, lineTokens_element]
    have hsplit : ∀ rest, [Token.text [0x0a], .start n []] ++
        (lineTokens inner ++ [.text [0x0a], .stop n]) ++ rest =
        .text [0x0a] :: .start n [] :: (contentTokens inner ++ .stop n :: rest) := fun rest => by
      simp [contentTokens]
    rw [List.append_assoc, hsplit]
    have hcontent : ∀ t ∈ contentTokens inner, isStart n t = false ∧ isStop n t = false := by
      intro t ht
      rcases List.mem_append.mp ht with ht | ht
      · exact hquiet t ht
      · rw [List.mem_singleton.mp ht]
        exact ⟨rfl, rfl⟩
    have htake : ∀ rest, (contentTokens inner ++ Token.stop n :: rest).takeWhile
        (fun t => !isStop n t) = contentTokens inner := fun rest => by
      rw [List.takeWhile_append_of_pos fun t ht => by rw [(hcontent t ht).2]; rfl,
        List.takeWhile_cons_of_neg (by rw [hstop]; exact Bool.false_ne_true), List.append_nil]
    rw [elements_other rfl, elements_start, htake, elements_append fun t ht => (hcontent t ht).1,
      elements_other rfl, ih hinners]
    rfl

/-! ## The text of a name -/

/-- The text that the lines have for a name. -/
def valueOf (n : CStr) : List Line → CStr
  | [] => []
  | .leaf m v :: lines => if m = n then v else valueOf n lines
  | _ :: lines => valueOf n lines

theorem valueOf_append {lines' : List Line} (h : ∀ l ∈ lines, l.name ≠ n) :
    valueOf n (lines ++ lines') = valueOf n lines' := by
  induction lines with
  | nil => rfl
  | cons l lines ih =>
    obtain ⟨hl, hlines⟩ := List.forall_mem_cons.mp h
    cases l with
    | leaf m v => exact (if_neg hl).trans (ih hlines)
    | start m attributes => exact ih hlines
    | stop m => exact ih hlines

theorem textOf_lines (h : ∀ l ∈ lines, l.name = n → ∃ v, l = .leaf n v) :
    textOf n (contentTokens lines) = valueOf n lines := by
  induction lines with
  | nil => rfl
  | cons l lines ih =>
    obtain ⟨hl, hlines⟩ := List.forall_mem_cons.mp h
    have hcons : contentTokens (l :: lines) =
        .text [0x0a] :: (l.tokens ++ contentTokens lines) := by
      rw [contentTokens, lineTokens, List.flatMap_cons, List.append_assoc, List.cons_append]
      rfl
    by_cases hname : l.name = n
    · obtain ⟨v, rfl⟩ := hl hname
      have htokens : contentTokens (.leaf n v :: lines) =
          [.text [0x0a]] ++ .start n [] :: (textToken v ++ .stop n :: contentTokens lines) := by
        rw [hcons, Line.tokens]
        simp
      have hquiet : ∀ t ∈ [Token.text [0x0a]], isStart n t = false :=
        List.forall_mem_singleton.mpr rfl
      have hstop : ∀ t ∈ (Token.stop n :: contentTokens lines).head?, ∀ w, t ≠ .text w := by
        intro t ht w
        cases ht
        exact fun h => by cases h
      rw [htokens, textOf_append hquiet, textOf_start hstop]
      exact (if_pos rfl).symm
    · have hquiet : ∀ t ∈ lineTokens [l], isStart n t = false :=
        not_isStart_lineTokens (List.forall_mem_singleton.mpr hname)
      have htokens : contentTokens (l :: lines) = lineTokens [l] ++ contentTokens lines := by
        rw [hcons, lineTokens, List.flatMap_singleton, List.cons_append]
      have hvalue : valueOf n (l :: lines) = valueOf n lines :=
        @valueOf_append n [l] lines (List.forall_mem_singleton.mpr hname)
      rw [htokens, textOf_append hquiet, ih hlines, hvalue]

/-- An element that is being read, behind others of the list: the text of a line in it is known. -/
theorem textOf_last {m u : CStr} {pre : List Line} {t : Token} {more : List Token}
    (hpre : ∀ l ∈ pre, l.name ≠ m ∧ l.name ≠ n) (ht : ∀ w, t ≠ .text w) :
    ∃ c cs, elements n (.text [0x0a] :: .start n [] :: (lineTokens pre ++
      .text [0x0a] :: .start m [] :: (textToken u ++ t :: more))) = c :: cs ∧ textOf m c = u := by
  rw [elements_other rfl, elements_start]
  refine ⟨_, _, rfl, ?_⟩
  have hquiet : ∀ t ∈ lineTokens pre ++ Token.text [0x0a] :: .start m [] :: textToken u,
      isStop n t = false := by
    intro t ht
    rcases List.mem_append.mp ht with ht | ht
    · exact (quiet_lineTokens (fun l hl => (hpre l hl).2) t ht).2
    · rcases List.mem_cons.mp ht with rfl | ht
      · rfl
      rcases List.mem_cons.mp ht with rfl | ht
      · rfl
      unfold textToken at ht
      split_ifs at ht
      · cases ht
      · rw [List.mem_singleton.mp ht]
        rfl
  have hsplit : lineTokens pre ++ .text [0x0a] :: .start m [] :: (textToken u ++ t :: more) =
      (lineTokens pre ++ Token.text [0x0a] :: .start m [] :: textToken u) ++ t :: more := by simp
  have hhead : ∀ x ∈ ((t :: more).takeWhile fun t => !isStop n t).head?, ∀ w, x ≠ .text w := by
    intro x hx w
    by_cases hstop : isStop n t = true
    · rw [List.takeWhile_cons_of_neg (by rw [hstop]; exact Bool.false_ne_true)] at hx
      cases hx
    · rw [List.takeWhile_cons_of_pos (by rw [Bool.eq_false_iff.mpr hstop]; rfl)] at hx
      cases hx
      exact ht w
  rw [hsplit, List.takeWhile_append_of_pos fun t ht => by rw [hquiet t ht]; rfl, List.append_assoc,
    textOf_append (not_isStart_lineTokens fun l hl => (hpre l hl).1)]
  show textOf m ([Token.text [0x0a]] ++ .start m [] :: (textToken u ++ _)) = u
  rw [textOf_append (List.forall_mem_singleton.mpr rfl), textOf_start hhead]

/-! ## Documents -/

theorem not_isStart_report {declaration : CStr} (h : ∀ l ∈ lines, l.name ≠ n) :
    ∀ t ∈ report declaration lines, isStart n t = false :=
  List.forall_mem_cons.mpr ⟨rfl, not_isStart_lineTokens h⟩

/-- The first element with a name, behind other lines, while it is being read. -/
theorem textOf_report {declaration u : CStr} {t : Token} {more : List Token}
    (h : ∀ l ∈ lines, l.name ≠ n) (ht : ∀ w, t ≠ .text w) :
    textOf n (report declaration lines ++
      .text [0x0a] :: .start n [] :: (textToken u ++ t :: more)) = u := by
  rw [textOf_append (not_isStart_report h)]
  show textOf n ([Token.text [0x0a]] ++ .start n [] :: (textToken u ++ t :: more)) = u
  rw [textOf_append (List.forall_mem_singleton.mpr rfl), textOf_start]
  intro x hx
  cases hx
  exact ht

/-- Lines after which the name is not taken again: each name stands for one text. -/
def Distinct (lines : List Line) : Prop :=
  lines.Pairwise fun l l' => ∀ n v, l' = .leaf n v → l.name ≠ n

theorem element_eq_append_leaf {m v : CStr} {attributes : List (CStr × CStr)}
    {pre post : List Line} (h : element n attributes lines = pre ++ .leaf m v :: post) :
    ∃ before behind, pre = .start n attributes :: before ∧
      lines = before ++ .leaf m v :: behind := by
  cases pre with
  | nil => cases h
  | cons l before =>
    obtain ⟨rfl, hlines⟩ : Line.start n attributes = l ∧
        lines ++ [.stop n] = before ++ .leaf m v :: post := by
      rw [element, List.cons_append, List.cons_append] at h
      exact List.cons.inj h
    refine ⟨before, ?_⟩
    rcases List.append_eq_append_iff.mp hlines with ⟨c, -, hstop⟩ | ⟨c, hbefore, hleaf⟩
    · cases c with
      | nil => cases hstop
      | cons x c => cases c <;> cases hstop
    · cases c with
      | nil => cases hleaf
      | cons x c =>
        obtain ⟨rfl, -⟩ := List.cons.inj hleaf
        exact ⟨c, rfl, hbefore⟩

end lines

theorem flatten_eq_append_cons {α : Type} {xs : List (List α)} {rest pre post : List α} {a : α}
    (h : xs.flatten ++ rest = pre ++ a :: post) (ha : a ∉ rest) :
    ∃ done x more pre' post', xs = done ++ x :: more ∧ x = pre' ++ a :: post' ∧
      pre = done.flatten ++ pre' := by
  induction xs generalizing pre with
  | nil =>
    have hmem : a ∈ rest := by
      rw [show rest = pre ++ a :: post from h]
      exact List.mem_append_right _ List.mem_cons_self
    exact absurd hmem ha
  | cons x xs ih =>
    rw [List.flatten_cons, List.append_assoc] at h
    have hbehind : ∀ pre', xs.flatten ++ rest = pre' ++ a :: post → pre = x ++ pre' →
        ∃ done y more pre' post', x :: xs = done ++ y :: more ∧ y = pre' ++ a :: post' ∧
          pre = done.flatten ++ pre' := by
      intro pre' hrest hpre
      obtain ⟨done, y, more, pre'', post', rfl, hy, rfl⟩ := ih hrest
      exact ⟨x :: done, y, more, pre'', post', rfl, hy, by
        rw [hpre, List.flatten_cons, List.append_assoc]⟩
    rcases List.append_eq_append_iff.mp h with ⟨c, rfl, hrest⟩ | ⟨c, hx, hrest⟩
    · exact hbehind c hrest rfl
    · cases c with
      | nil =>
        rw [List.append_nil] at hx
        exact hbehind [] hrest.symm (by rw [hx, List.append_nil])
      | cons b c =>
        obtain ⟨rfl, -⟩ := List.cons.inj hrest
        exact ⟨[], x, xs, pre, c, rfl, hx, rfl⟩

end GB28181.Base.Xml
