import FieldLogic.Text.Quoted

/-! Where the text of a condition comes from: it is fixed, or a producer gives it anew each time it is asked. -/

namespace FieldLogic

/-- The text a producer gives on each call, and how often it has been called. -/
structure Producer where
  output : Nat → String
  calls : Nat

namespace Producer

/-- A producer that goes through some texts again and again. -/
def cycling (first : String) (others : List String) : Producer where
  output call := ((first :: others)[call % (others.length + 1)]?).getD first
  calls := 0

def next (producer : Producer) : String × Producer :=
  (producer.output producer.calls, { producer with calls := producer.calls + 1 })

end Producer

inductive Source where
  | fixed (text : String)
  | produced (producer : Producer)

namespace Source

def isProduced : Source → Bool
  | fixed _ => false
  | produced _ => true

def resolve : Source → String × Source
  | fixed text => (text, fixed text)
  | produced producer => (producer.next.1, produced producer.next.2)

def calls? : Source → Option Nat
  | fixed _ => none
  | produced producer => some producer.calls

/-- A source as shown to people; what a producer will give is not known. -/
def description : Source → String
  | fixed text => "Static(" ++ Text.quoted text ++ ")"
  | produced _ => "Dynamic(..)"

def resolveAll : List Source → List String × List Source
  | [] => ([], [])
  | source :: rest => (source.resolve.1 :: (resolveAll rest).1, source.resolve.2 :: (resolveAll rest).2)

end Source

end FieldLogic
