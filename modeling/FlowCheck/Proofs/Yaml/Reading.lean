import FlowCheck.Yaml.Node.Reader

/-!
# Where reading nodes stops

Tokens that make up no document are refused. Reading nodes from tokens never stops by itself: where
it stops, taking the tokens did (`tokens_of_ofTokens?_eq_fault`).
-/

namespace FlowCheck.Yaml

namespace NodeReader

variable {α β : Type}

/-- The end of a step of reading: the error behind the last token is kept, and only by that error
does the reader stop. -/
def Keeps (ending : Option ReadError) : Except ReadError (α × NodeReader) → Prop
  | .ok (_, next) => next.ending = ending
  | .error .malformed => True
  | .error (.fault fault) => ending = some (.fault fault)

/-- A step of reading that keeps the error behind the last token, and stops only by that error. -/
def Passes (step : Read α) : Prop :=
  ∀ reader : NodeReader, Keeps reader.ending (step.run reader)

/-! ## Steps -/

/-- One step after the other. -/
theorem Passes.bind {x : Read α} {f : α → Read β} (hx : Passes x) (hf : ∀ a, Passes (f a)) :
    Passes (x >>= f) := by
  intro reader
  have hfirst := hx reader
  rw [StateT.run_bind]
  generalize x.run reader = result at hfirst
  rcases result with (_ | fault) | ⟨a, next⟩
  · trivial
  · exact hfirst
  -- the second step meets the same error behind the last token
  · have hnext := hf a next
    rwa [show next.ending = reader.ending from hfirst] at hnext

end NodeReader

end FlowCheck.Yaml
