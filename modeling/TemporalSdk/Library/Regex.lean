import Mathlib.Computability.Language
import Mathlib.Tactic.Common

/-!
# Regular expressions over classes of characters

They are matched by derivatives. Each matcher is specified by the language of the expression.
-/

inductive Regex
  | never
  | empty
  | char (p : Char → Bool)
  | seq (r s : Regex)
  | alt (r s : Regex)
  | star (r : Regex)

namespace Regex

def literal (s : String) : Regex :=
  s.toList.foldr (fun c r => seq (char (· == c)) r) empty

def plus (r : Regex) : Regex := seq r (star r)

def concat (rs : List Regex) : Regex := rs.foldr seq empty

def nullable : Regex → Bool
  | never => false
  | empty => true
  | char _ => false
  | seq r s => r.nullable && s.nullable
  | alt r s => r.nullable || s.nullable
  | star _ => true

def deriv (c : Char) : Regex → Regex
  | never => never
  | empty => never
  | char p => if p c then empty else never
  | seq r s => if r.nullable then alt (seq (r.deriv c) s) (s.deriv c) else seq (r.deriv c) s
  | alt r s => alt (r.deriv c) (s.deriv c)
  | star r => seq (r.deriv c) (star r)

/-- Does the expression match at the start of the text? -/
def matchesStart (r : Regex) : List Char → Bool
  | [] => r.nullable
  | c :: cs => r.nullable || (r.deriv c).matchesStart cs

/-- `RegExp.prototype.test` -/
def test (r : Regex) (text : List Char) : Bool := text.tails.any r.matchesStart

/-- Does the expression match the whole text, as between `^` and `$`? -/
def accepts (r : Regex) : List Char → Bool
  | [] => r.nullable
  | c :: cs => (r.deriv c).accepts cs

/-- Does the expression match at the end of the text, as before `$`? -/
def matchesEnd (r : Regex) (text : List Char) : Bool := text.tails.any r.accepts

/-- What follows the longest match at the start of the text -/
def dropLongest (r : Regex) : List Char → Option (List Char)
  | [] => if r.nullable then some [] else none
  | c :: cs =>
    match (r.deriv c).dropLongest cs with
    | some rest => some rest
    | none => if r.nullable then some (c :: cs) else none

/-! ### The language of an expression -/

def lang : Regex → Language Char
  | never => 0
  | empty => 1
  | char p => {w | ∃ c, p c = true ∧ w = [c]}
  | seq r s => r.lang * s.lang
  | alt r s => r.lang + s.lang
  | star r => KStar.kstar r.lang

lemma nil_mem_lang (r : Regex) : [] ∈ r.lang ↔ r.nullable = true := by
  induction r with
  | never => simp [lang, nullable]
  | empty => simp [lang, nullable]
  | char p =>
    simp only [nullable, Bool.false_eq_true, iff_false]
    rintro ⟨c, -, hc⟩
    cases hc
  | seq r s ihr ihs =>
    rw [lang, nullable, Bool.and_eq_true, ← ihr, ← ihs, Language.mem_mul]
    constructor
    · rintro ⟨u, hu, v, hv, h⟩
      obtain ⟨rfl, rfl⟩ := List.append_eq_nil_iff.mp h
      exact ⟨hu, hv⟩
    · rintro ⟨hr, hs⟩
      exact ⟨[], hr, [], hs, rfl⟩
  | alt r s ihr ihs => rw [lang, nullable, Bool.or_eq_true, ← ihr, ← ihs, Language.mem_add]
  | star r ih =>
    simp only [nullable, iff_true]
    exact Language.nil_mem_kstar r.lang

/-- A word in a repetition starts with a word that is repeated. -/
lemma cons_mem_kstar {l : Language Char} {c : Char} {w : List Char} :
    c :: w ∈ KStar.kstar l ↔ ∃ u v, u ++ v = w ∧ c :: u ∈ l ∧ v ∈ KStar.kstar l := by
  constructor
  · intro h
    rw [Language.mem_kstar_iff_exists_nonempty] at h
    obtain ⟨words, hw, hwords⟩ := h
    cases words with
    | nil => cases hw
    | cons word words =>
      obtain ⟨hword, hne⟩ := hwords word List.mem_cons_self
      cases word with
      | nil => exact absurd rfl hne
      | cons c' u =>
        rw [List.flatten_cons, List.cons_append, List.cons.injEq] at hw
        obtain ⟨rfl, rfl⟩ := hw
        refine ⟨u, words.flatten, rfl, hword, ?_⟩
        exact Language.join_mem_kstar fun y hy => (hwords y (List.mem_cons_of_mem _ hy)).1
  · rintro ⟨u, v, rfl, hu, hv⟩
    obtain ⟨words, rfl, hwords⟩ := Language.mem_kstar.mp hv
    refine Language.mem_kstar.mpr ⟨(c :: u) :: words, rfl, fun y hy => ?_⟩
    rcases List.mem_cons.mp hy with rfl | hy
    · exact hu
    · exact hwords y hy

lemma cons_mem_mul {l m : Language Char} {c : Char} {w : List Char} :
    c :: w ∈ l * m ↔ (∃ u v, u ++ v = w ∧ c :: u ∈ l ∧ v ∈ m) ∨ [] ∈ l ∧ c :: w ∈ m := by
  rw [Language.mem_mul]
  constructor
  · rintro ⟨u, hu, v, hv, h⟩
    cases u with
    | nil => exact .inr ⟨hu, h ▸ hv⟩
    | cons c' u =>
      rw [List.cons_append, List.cons.injEq] at h
      obtain ⟨rfl, rfl⟩ := h
      exact .inl ⟨u, v, rfl, hu, hv⟩
  · rintro (⟨u, v, rfl, hu, hv⟩ | ⟨hnil, hv⟩)
    · exact ⟨c :: u, hu, v, hv, rfl⟩
    · exact ⟨[], hnil, c :: w, hv, rfl⟩

lemma cons_mem_lang (r : Regex) (c : Char) (w : List Char) : c :: w ∈ r.lang ↔ w ∈ (r.deriv c).lang := by
  have hmul : ∀ r s : Regex, (∀ w, c :: w ∈ r.lang ↔ w ∈ (r.deriv c).lang) → ∀ w,
      (∃ u v, u ++ v = w ∧ c :: u ∈ r.lang ∧ v ∈ s.lang) ↔ w ∈ (seq (r.deriv c) s).lang := by
    intro r s hr w
    rw [lang, Language.mem_mul]
    constructor
    · rintro ⟨u, v, h, hu, hv⟩
      exact ⟨u, (hr u).mp hu, v, hv, h⟩
    · rintro ⟨u, hu, v, hv, h⟩
      exact ⟨u, v, h, (hr u).mpr hu, hv⟩
  induction r generalizing w with
  | never => exact Iff.rfl
  | empty => simp [lang, deriv]
  | char p =>
    rw [deriv]
    constructor
    · rintro ⟨c', hp, h⟩
      rw [List.cons.injEq] at h
      obtain ⟨rfl, rfl⟩ := h
      rw [if_pos hp]
      exact Language.nil_mem_one
    · intro h
      split at h
      · rename_i hp
        obtain rfl : w = [] := h
        exact ⟨c, hp, rfl⟩
      · exact absurd h (Language.notMem_zero w)
  | seq r s ihr ihs =>
    have hs : c :: w ∈ s.lang ↔ w ∈ (s.deriv c).lang := ihs w
    rw [lang, cons_mem_mul, hmul r s ihr, nil_mem_lang, hs, deriv]
    split
    · rename_i hnullable
      simp [hnullable, lang, Language.mem_add]
    · rename_i hnullable
      simp [hnullable]
  | alt r s ihr ihs => exact or_congr (ihr w) (ihs w)
  | star r ih => rw [lang, cons_mem_kstar, deriv, ← hmul r (star r) ih w, lang]

/-! ### The matchers -/

lemma accepts_iff (r : Regex) (w : List Char) : r.accepts w = true ↔ w ∈ r.lang := by
  induction w generalizing r with
  | nil => exact (nil_mem_lang r).symm
  | cons c w ih => rw [accepts, ih, cons_mem_lang]

lemma matchesStart_iff (r : Regex) (w : List Char) :
    r.matchesStart w = true ↔ ∃ u v, u ++ v = w ∧ u ∈ r.lang := by
  induction w generalizing r with
  | nil =>
    rw [matchesStart, ← nil_mem_lang]
    constructor
    · exact fun h => ⟨[], [], rfl, h⟩
    · rintro ⟨u, v, h, hu⟩
      obtain ⟨rfl, -⟩ := List.append_eq_nil_iff.mp h
      exact hu
  | cons c w ih =>
    rw [matchesStart, Bool.or_eq_true, ih, ← nil_mem_lang]
    constructor
    · rintro (h | ⟨u, v, rfl, hu⟩)
      · exact ⟨[], c :: w, rfl, h⟩
      · exact ⟨c :: u, v, rfl, (cons_mem_lang r c u).mpr hu⟩
    · rintro ⟨u, v, h, hu⟩
      cases u with
      | nil => exact .inl hu
      | cons c' u =>
        rw [List.cons_append, List.cons.injEq] at h
        obtain ⟨rfl, rfl⟩ := h
        exact .inr ⟨u, v, rfl, (cons_mem_lang r c' u).mp hu⟩

lemma test_iff (r : Regex) (w : List Char) :
    r.test w = true ↔ ∃ before u after, before ++ (u ++ after) = w ∧ u ∈ r.lang := by
  simp only [test, List.any_eq_true, List.mem_tails, matchesStart_iff]
  constructor
  · rintro ⟨_, ⟨before, rfl⟩, u, after, rfl, hu⟩
    exact ⟨before, u, after, rfl, hu⟩
  · rintro ⟨before, u, after, rfl, hu⟩
    exact ⟨u ++ after, ⟨before, rfl⟩, u, after, rfl, hu⟩

lemma matchesEnd_iff (r : Regex) (w : List Char) :
    r.matchesEnd w = true ↔ ∃ before u, before ++ u = w ∧ u ∈ r.lang := by
  simp only [matchesEnd, List.any_eq_true, List.mem_tails, accepts_iff]
  constructor
  · rintro ⟨u, ⟨before, h⟩, hu⟩
    exact ⟨before, u, h, hu⟩
  · rintro ⟨before, u, h, hu⟩
    exact ⟨u, ⟨before, h⟩, hu⟩

lemma exists_of_dropLongest {r : Regex} {w rest : List Char} (h : r.dropLongest w = some rest) :
    ∃ u, u ++ rest = w ∧ u ∈ r.lang := by
  induction w generalizing r with
  | nil =>
    obtain ⟨hnullable, h⟩ := Option.ite_none_right_eq_some.mp h
    cases h
    exact ⟨[], rfl, (nil_mem_lang r).mpr hnullable⟩
  | cons c w ih =>
    simp only [dropLongest] at h
    split at h
    · rename_i hrest
      cases h
      obtain ⟨u, rfl, hu⟩ := ih hrest
      exact ⟨c :: u, rfl, (cons_mem_lang r c u).mpr hu⟩
    · obtain ⟨hnullable, h⟩ := Option.ite_none_right_eq_some.mp h
      cases h
      exact ⟨[], rfl, (nil_mem_lang r).mpr hnullable⟩

/-- A match that no other one at the start of the text is longer than -/
lemma dropLongest_of_longest {r : Regex} {u v : List Char} (hu : u ∈ r.lang)
    (hlongest : ∀ u' v', u' ++ v' = u ++ v → u' ∈ r.lang → u'.length ≤ u.length) :
    r.dropLongest (u ++ v) = some v := by
  induction u generalizing r with
  | nil =>
    have hnullable := (nil_mem_lang r).mp hu
    cases v with
    | nil => simp [dropLongest, hnullable]
    | cons c v =>
      have hnone : (r.deriv c).dropLongest v = none := by
        refine Option.eq_none_iff_forall_ne_some.mpr fun rest hrest => ?_
        obtain ⟨u', rfl, hu'⟩ := exists_of_dropLongest hrest
        have hle := hlongest (c :: u') rest rfl ((cons_mem_lang r c u').mpr hu')
        exact absurd hle (Nat.not_succ_le_zero _)
      simp [dropLongest, hnone, hnullable]
  | cons c u ih =>
    have hrest : (r.deriv c).dropLongest (u ++ v) = some v := by
      refine ih ((cons_mem_lang r c u).mp hu) fun u' v' h hu' => ?_
      have hle := hlongest (c :: u') v' (by rw [List.cons_append, h, List.cons_append])
        ((cons_mem_lang r c u').mpr hu')
      simpa using hle
    simp [dropLongest, hrest]

/-! ### Expressions that are built from others -/

lemma mem_literal {s : String} {w : List Char} : w ∈ (literal s).lang ↔ w = s.toList := by
  have hchars : ∀ cs w : List Char,
      w ∈ (cs.foldr (fun c r => seq (char (· == c)) r) empty).lang ↔ w = cs := by
    intro cs
    induction cs with
    | nil => exact fun w => Iff.rfl
    | cons c cs ih =>
      intro w
      rw [List.foldr_cons, lang, Language.mem_mul]
      constructor
      · rintro ⟨_, ⟨c', hc, rfl⟩, v, hv, rfl⟩
        rw [eq_of_beq hc, (ih v).mp hv]
        rfl
      · rintro rfl
        exact ⟨[c], ⟨c, beq_self_eq_true c, rfl⟩, cs, (ih cs).mpr rfl, rfl⟩
  exact hchars s.toList w

lemma mem_star_char {p : Char → Bool} {w : List Char} :
    w ∈ (star (char p)).lang ↔ ∀ c ∈ w, p c = true := by
  induction w with
  | nil => exact iff_of_true (Language.nil_mem_kstar (char p).lang) (by simp)
  | cons c w ih =>
    rw [cons_mem_lang, deriv, deriv, lang, Language.mem_mul, List.forall_mem_cons, ← ih]
    split
    · rename_i hc
      simp only [hc, true_and]
      constructor
      · rintro ⟨_, rfl, v, hv, rfl⟩
        exact hv
      · exact fun h => ⟨[], rfl, w, h, rfl⟩
    · rename_i hc
      refine iff_of_false ?_ fun h => hc h.1
      rintro ⟨u, hu, -⟩
      exact Language.notMem_zero u hu

lemma mem_seq {r s : Regex} {w : List Char} :
    w ∈ (seq r s).lang ↔ ∃ u ∈ r.lang, ∃ v ∈ s.lang, u ++ v = w :=
  Language.mem_mul

lemma mem_alt {r s : Regex} {w : List Char} : w ∈ (alt r s).lang ↔ w ∈ r.lang ∨ w ∈ s.lang := Iff.rfl

lemma mem_plus_char {p : Char → Bool} {w : List Char} :
    w ∈ (plus (char p)).lang ↔ w ≠ [] ∧ ∀ c ∈ w, p c = true := by
  rw [plus, mem_seq]
  constructor
  · rintro ⟨_, ⟨c, hc, rfl⟩, v, hv, rfl⟩
    refine ⟨List.cons_ne_nil c v, fun c' hc' => ?_⟩
    rcases List.mem_cons.mp hc' with rfl | hc'
    · exact hc
    · exact mem_star_char.mp hv c' hc'
  · rintro ⟨hne, hall⟩
    obtain ⟨c, v, rfl⟩ := List.exists_cons_of_ne_nil hne
    exact ⟨[c], ⟨c, hall c List.mem_cons_self, rfl⟩, v,
      mem_star_char.mpr fun c' hc' => hall c' (List.mem_cons_of_mem _ hc'), rfl⟩

lemma mem_concat_nil {w : List Char} : w ∈ (concat []).lang ↔ w = [] := Iff.rfl

lemma mem_concat_cons {r : Regex} {rs : List Regex} {w : List Char} :
    w ∈ (concat (r :: rs)).lang ↔ ∃ u ∈ r.lang, ∃ v ∈ (concat rs).lang, u ++ v = w :=
  mem_seq

/-- A text has one way of being split where characters of a class end. -/
lemma append_cons_inj {α : Type*} {p : α → Bool} {u u' : List α} {a a' : α} {v v' : List α}
    (hu : ∀ c ∈ u, p c = true) (hu' : ∀ c ∈ u', p c = true) (ha : p a = false) (ha' : p a' = false)
    (h : u ++ a :: v = u' ++ a' :: v') : u = u' ∧ a = a' ∧ v = v' := by
  induction u generalizing u' with
  | nil =>
    cases u' with
    | nil => exact ⟨rfl, List.cons.inj h⟩
    | cons c u' =>
      obtain ⟨rfl, -⟩ := List.cons.inj h
      exact absurd (hu' a List.mem_cons_self) (by simp [ha])
  | cons c u ih =>
    cases u' with
    | nil =>
      obtain ⟨rfl, -⟩ := List.cons.inj h
      exact absurd (hu c List.mem_cons_self) (by simp [ha'])
    | cons c' u' =>
      obtain ⟨rfl, htail⟩ := List.cons.inj h
      obtain ⟨rfl, hrest⟩ := ih (fun d hd => hu d (List.mem_cons_of_mem _ hd))
        (fun d hd => hu' d (List.mem_cons_of_mem _ hd)) htail
      exact ⟨rfl, hrest⟩

end Regex
