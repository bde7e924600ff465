import Companion.Template
import Companion.Text.Words

/-! Rendering, and an engine that keeps templates by name. Registering replaces the template of that
name, and a text that is no template changes nothing. -/
namespace Companion

inductive RenderError where
  /-- A value that no literal denotes. -/
  | noLiteral (value : Value)
  | missingOperand (helper : String)
  | unknownHelper (name : String)
  | unregistered (name : String)
  | malformed

def RenderError.message : RenderError → String
  | .noLiteral v => "no Rust literal for " ++ v.json
  | .missingOperand helper => "no operand for " ++ helper
  | .unknownHelper name => "no helper " ++ name
  | .unregistered name => "no template " ++ name
  | .malformed => "malformed template"

/-- The value at a path of the data; null where there is none. -/
def Value.look (data : Value) : List String → Value
  | [] => data
  | step :: steps =>
    match data.field? step with
    | some v => v.look steps
    | none => .null

/-- What an operand stands for, given the data. -/
def Operand.value (data : Value) : Operand → Value
  | .path steps => data.look steps
  | .constant v => v

namespace Template

/-- The type of a code: the one that represents it, or one that suits its value. -/
def codeType (code : Value) : String :=
  let declared := match code.field? "representation_type" with
    | some (.text s) => s
    | _ => ""
  if declared.isEmpty then
    match code.field? "value" with
    | some (.number ..) => "i64"
    | some (.boolean _) => "bool"
    | _ => "&'static str"
  else declared

/-- What a helper writes for its operands. -/
def applyHelper (helper : String) (operands : List Value) : Except RenderError (List Char) :=
  match helper with
  | "rust_literal" =>
    match operands with
    | [] => .error (.missingOperand helper)
    | v :: _ =>
      match v.literal? with
      | some literal => .ok literal
      | none => .error (.noLiteral v)
  | "rust_str" =>
    .ok (Text.quoteWith Text.escapeLiteral (operands.flatMap fun v => v.plain.toList))
  | "code_type" =>
    match operands with
    | [] => .error (.missingOperand helper)
    | v :: _ => .ok (codeType v).toList
  | "screaming_snake" =>
    match operands with
    | .text s :: _ => .ok (Text.screamingSnake s).toList
    | _ => .ok []
  | _ => .error (.unknownHelper helper)

/-- The texts of a list of values, one after the other. -/
def renderAll (render : Value → Except RenderError (List Char)) :
    List Value → Except RenderError (List Char)
  | [] => .ok []
  | v :: vs => do
    let first ← render v
    let rest ← renderAll render vs
    return first ++ rest

/-- The text of a template on the given data. -/
def render : Template → Value → Except RenderError (List Char)
  | .done, _ => .ok []
  | .text s next, data => do
    let rest ← next.render data
    return s ++ rest
  | .value steps next, data => do
    let rest ← next.render data
    return (data.look steps).shown.toList ++ rest
  | .call helper operands next, data => do
    let first ← applyHelper helper (operands.map (Operand.value data))
    let rest ← next.render data
    return first ++ rest
  | .branch condition yes no next, data => do
    let first ← if (Operand.value data condition).holds then yes.render data else no.render data
    let rest ← next.render data
    return first ++ rest
  | .each items body next, data => do
    let first ← renderAll (fun v => body.render v) (Operand.value data items).items
    let rest ← next.render data
    return first ++ rest

end Template

/-- Templates by name. -/
structure Engine where
  templates : List (String × Template)

namespace Engine

def empty : Engine := ⟨[]⟩

def template? (e : Engine) (name : String) : Option Template := e.templates.lookup name

def has (e : Engine) (name : String) : Bool := (e.template? name).isSome

/-- The engine with a further template, if the characters are one. -/
def add (e : Engine) (name : String) (text : List Char) : Option Engine :=
  (Template.compile text).map fun t => ⟨(name, t) :: e.templates⟩

/-- The engine with a further template, if the text is one. -/
def register (e : Engine) (name text : String) : Option Engine := e.add name text.toList

/-- The characters that the template of that name gives. -/
def chars (e : Engine) (name : String) (data : Value) : Except RenderError (List Char) :=
  match e.template? name with
  | some t => t.render data
  | none => .error (.unregistered name)

/-- The text that the template of that name gives. -/
def render (e : Engine) (name : String) (data : Value) : Except RenderError String :=
  (e.chars name data).map String.ofList

/-- The text of a template that is given on the spot. -/
def renderText (text : String) (data : Value) : Except RenderError String :=
  match Template.compile text.toList with
  | some t => (t.render data).map String.ofList
  | none => .error .malformed

end Engine
end Companion
