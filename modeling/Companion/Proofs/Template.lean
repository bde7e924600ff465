import Mathlib
import Companion.Template.Engine

/-! Rendering part by part. Each part of a template puts its text in front of what the rest gives,
so a template renders to the concatenation of its parts (`render_text` and its like). Two templates
can be compared, as long as their constants are texts (`eq_of_agrees`). -/
namespace Companion

/-! ### Comparison -/

/-- Whether two operands are one path or one text. -/
def Operand.agrees : Operand → Operand → Bool
  | .path a, .path b => a = b
  | .constant (.text s), .constant (.text t) => s = t
  | _, _ => false

def Operand.agreeAll : List Operand → List Operand → Bool
  | [], [] => true
  | a :: as, b :: bs => a.agrees b && agreeAll as bs
  | _, _ => false

theorem Operand.eq_of_agrees {a b : Operand} (h : a.agrees b = true) : a = b := by
  unfold agrees at h
  split at h
  · exact congrArg Operand.path (of_decide_eq_true h)
  · exact congrArg (fun s => Operand.constant (.text s)) (of_decide_eq_true h)
  · cases h

theorem Operand.eq_of_agreeAll {as bs : List Operand} (h : agreeAll as bs = true) : as = bs := by
  induction as generalizing bs with
  | nil =>
    cases bs with
    | nil => rfl
    | cons b bs => cases h
  | cons a as ih =>
    cases bs with
    | nil => cases h
    | cons b bs =>
      obtain ⟨ha, has⟩ := Bool.and_eq_true_iff.1 h
      rw [eq_of_agrees ha, ih has]

namespace Template

/-- Whether two templates have the same parts. -/
def agrees : Template → Template → Bool
  | .done, .done => true
  | .text a x, .text b y => a = b && x.agrees y
  | .value a x, .value b y => a = b && x.agrees y
  | .call f as x, .call g bs y => f = g && Operand.agreeAll as bs && x.agrees y
  | .branch a yes no x, .branch b yes' no' y =>
    a.agrees b && yes.agrees yes' && no.agrees no' && x.agrees y
  | .each a body x, .each b body' y => a.agrees b && body.agrees body' && x.agrees y
  | _, _ => false

theorem eq_of_agrees {x y : Template} (h : x.agrees y = true) : x = y := by
  induction x generalizing y with
  | done =>
    cases y with
    | done => rfl
    | _ => cases h
  | text a x ih =>
    cases y with
    | text b y =>
      obtain ⟨ha, hx⟩ := Bool.and_eq_true_iff.1 h
      rw [of_decide_eq_true ha, ih hx]
    | _ => cases h
  | value a x ih =>
    cases y with
    | value b y =>
      obtain ⟨ha, hx⟩ := Bool.and_eq_true_iff.1 h
      rw [of_decide_eq_true ha, ih hx]
    | _ => cases h
  | call f as x ih =>
    cases y with
    | call g bs y =>
      obtain ⟨hcall, hx⟩ := Bool.and_eq_true_iff.1 h
      obtain ⟨hf, has⟩ := Bool.and_eq_true_iff.1 hcall
      rw [of_decide_eq_true hf, Operand.eq_of_agreeAll has, ih hx]
    | _ => cases h
  | branch a yes no x ihyes ihno ih =>
    cases y with
    | branch b yes' no' y =>
      obtain ⟨hcases, hx⟩ := Bool.and_eq_true_iff.1 h
      obtain ⟨hcases, hno⟩ := Bool.and_eq_true_iff.1 hcases
      obtain ⟨ha, hyes⟩ := Bool.and_eq_true_iff.1 hcases
      rw [Operand.eq_of_agrees ha, ihyes hyes, ihno hno, ih hx]
    | _ => cases h
  | each a body x ihbody ih =>
    cases y with
    | each b body' y =>
      obtain ⟨hloop, hx⟩ := Bool.and_eq_true_iff.1 h
      obtain ⟨ha, hbody⟩ := Bool.and_eq_true_iff.1 hloop
      rw [Operand.eq_of_agrees ha, ihbody hbody, ih hx]
    | _ => cases h

/-! ### Parts -/

/-- What is rendered behind some characters. -/
def behind (cs : List Char) (x : Except RenderError (List Char)) : Except RenderError (List Char) :=
  x.map (cs ++ ·)

theorem behind_behind (cs ds : List Char) (x : Except RenderError (List Char)) :
    behind cs (behind ds x) = behind (cs ++ ds) x := by
  cases x <;> simp [behind, Except.map]

theorem behind_eq_ok_iff {cs out : List Char} {x : Except RenderError (List Char)} :
    behind cs x = .ok out ↔ ∃ rest, x = .ok rest ∧ out = cs ++ rest := by
  cases x <;> simp [behind, Except.map, eq_comm]

theorem behind_eq_error_iff {cs : List Char} {x : Except RenderError (List Char)}
    {e : RenderError} :
    behind cs x = .error e ↔ x = .error e := by
  cases x <;> simp [behind, Except.map]

variable {data : Value} {next : Template}

theorem render_text (cs : List Char) :
    (text cs next).render data = behind cs (next.render data) := by
  show (do let rest ← next.render data; return cs ++ rest) = _
  cases next.render data <;> rfl

theorem render_value (steps : List String) :
    (value steps next).render data = behind (data.look steps).shown.toList (next.render data) := by
  show (do let rest ← next.render data; return (data.look steps).shown.toList ++ rest) = _
  cases next.render data <;> rfl

theorem render_call {helper : String} {operands : List Operand} {cs : List Char}
    (h : applyHelper helper (operands.map (Operand.value data)) = .ok cs) :
    (call helper operands next).render data = behind cs (next.render data) := by
  show (do
    let first ← applyHelper helper (operands.map (Operand.value data))
    let rest ← next.render data
    return first ++ rest) = _
  rw [h]
  cases next.render data <;> rfl

theorem render_branch {condition : Operand} {yes no : Template} {cs : List Char}
    (h : (if (Operand.value data condition).holds then yes.render data else no.render data) =
      .ok cs) :
    (branch condition yes no next).render data = behind cs (next.render data) := by
  rw [render]
  split at h
  · next hyes =>
    rw [if_pos hyes, h]
    cases next.render data <;> rfl
  · next hno =>
    rw [if_neg hno, h]
    cases next.render data <;> rfl

theorem renderAll_map {α : Type} {render : Value → Except RenderError (List Char)}
    {item : α → Value} {shown : α → List Char} (h : ∀ a, render (item a) = .ok (shown a))
    (as : List α) :
    renderAll render (as.map item) = .ok (as.flatMap shown) := by
  induction as with
  | nil => rfl
  | cons a as ih =>
    rw [List.map_cons, renderAll, h, ih]
    rfl

theorem render_each {α : Type} {items : Operand} {body : Template} {item : α → Value}
    {shown : α → List Char} {as : List α} (hitems : (Operand.value data items).items = as.map item)
    (h : ∀ a, body.render (item a) = .ok (shown a)) :
    (each items body next).render data = behind (as.flatMap shown) (next.render data) := by
  show (do
    let first ← renderAll (fun v => body.render v) (Operand.value data items).items
    let rest ← next.render data
    return first ++ rest) = _
  rw [hitems, renderAll_map h]
  cases next.render data <;> rfl

theorem render_done : done.render data = .ok [] := rfl

/-- Values as one literal. -/
theorem applyHelper_text (operands : List Value) : applyHelper "rust_str" operands =
    .ok (Text.quoteWith Text.escapeLiteral (operands.flatMap fun v => v.plain.toList)) := by
  simp [applyHelper]

/-- A text in the data as a literal. -/
theorem applyHelper_literal {operand : Value} {s : String} (h : operand.plain = s) :
    applyHelper "rust_str" [operand] = .ok (Text.literalChars s) := by
  simp [applyHelper_text, Text.literalChars, h]

end Template
end Companion
