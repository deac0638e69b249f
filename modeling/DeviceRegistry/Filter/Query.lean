import DeviceRegistry.Filter.Bound
import DeviceRegistry.Filter.Conditions
import DeviceRegistry.Entity.Basic
import DeviceRegistry.Store.Cell
import DeviceRegistry.Text.Search

/-! Queries for messages. A query may ask for a subtopic, a publisher and a protocol, for bounds of
time, for a number in a relation to another, and for a sum. What else it holds is passed over. -/
namespace DeviceRegistry.Filter

inductive ExactField where
  | subtopic
  | publisher
  | protocol
deriving DecidableEq

namespace ExactField

def key : ExactField → String
  | .subtopic => "subtopic"
  | .publisher => "publisher"
  | .protocol => "protocol"

def ofMessage : ExactField → Message → String
  | .subtopic, message => message.subtopic
  | .publisher, message => message.publisher
  | .protocol, message => message.protocol

/-- The fields in the order in which a query is searched for them. -/
def all : List ExactField := [.subtopic, .publisher, .protocol]

end ExactField

/-- The relation of a message's number to the number of the query. -/
inductive Comparison where
  | equal
  | less
  | lessOrEqual
  | greater
  | greaterOrEqual
deriving DecidableEq

namespace Comparison

/-- The comparison of a name. Each has a word and a sign. -/
def ofName? (name : String) : Option Comparison :=
  if name = "eq" ∨ name = "=" then some .equal
  else if name = "lt" ∨ name = "<" then some .less
  else if name = "le" ∨ name = "<=" then some .lessOrEqual
  else if name = "gt" ∨ name = ">" then some .greater
  else if name = "ge" ∨ name = ">=" then some .greaterOrEqual
  else none

def holds : Comparison → Binary64 → Binary64 → Bool
  | .equal, x, y => x.equals y
  | .less, x, y => x.less y
  | .lessOrEqual, x, y => x.lessOrEqual y
  | .greater, x, y => y.less x
  | .greaterOrEqual, x, y => y.lessOrEqual x

end Comparison

inductive MessageCondition where
  | exact (field : ExactField) (sought : Value)
  | notBefore (time : Binary64)
  | notAfter (time : Binary64)
  | value (comparison : Comparison) (bound : Binary64)
  | valueSum (sum : Binary64)

namespace MessageCondition

def parameters : MessageCondition → List Value
  | .exact _ sought => sought.comparisonParameters
  | .notBefore bound | .notAfter bound | .value _ bound | .valueSum bound => [.real bound]

/-- The message meets the condition. A message without the number that is asked for does not. -/
def holds : MessageCondition → Message → Bool
  | .exact field sought, message => sought.equalsText (field.ofMessage message)
  | .notBefore bound, message => bound.lessOrEqual message.time
  | .notAfter bound, message => message.time.lessOrEqual bound
  | .value comparison bound, message => message.value.any fun x => comparison.holds x bound
  | .valueSum sum, message => message.valueSum.any fun x => x.equals sum

end MessageCondition

namespace Query

/-- The query has an entry for the key. A list has an entry for each of its items, and a text for
each of its parts. -/
def hasEntry (query : Value) (key : String) : Except Failure Bool :=
  match query with
  | .map entries => .ok (Mapping.value? entries (.text key)).isSome
  | .list items | .tuple items | .set items => .ok (items.any fun item => item.equals (.text key))
  | .text s => .ok (Text.occursIn key.toList s.toList)
  | .bytes .window _ => .ok false
  | _ => .error .queryWithoutEntries

/-- The value of an entry. Only a mapping gives the values of its entries. -/
def entry (query : Value) (key : String) : Except Failure Value :=
  match query with
  | .map entries => .ok ((Mapping.value? entries (.text key)).getD .null)
  | _ => .error .queryWithoutEntries

mutual

def isComparable : Value → Bool
  | .list _ | .set _ | .map _ | .bytes .growing _ => false
  | .tuple items => allComparable items
  | _ => true

def allComparable : List Value → Bool
  | [] => true
  | item :: items => isComparable item && allComparable items

end

/-- The comparison that a value names. Whatever counts as nothing names equality. -/
def comparison (name : Value) : Except Failure Comparison :=
  if name.isBlank then .ok .equal
  else if !isComparable name then .error .comparatorNotComparable
  else
    let named := match name with
      | .text s => Comparison.ofName? s
      | _ => none
    match named with
    | some comparison => .ok comparison
    | none => .error (.showing name (.unknownComparator name))

def chosenComparison : Value → Except Failure Comparison
  | .map entries => comparison ((Mapping.value? entries (.text "comparator")).getD .null)
  | _ => .error .queryWithoutChoices

def conditionOf (query : Value) (key : String) (read : Except Failure MessageCondition) :
    Except Failure (Option MessageCondition) := do
  if ← hasEntry query key then return some (← read) else return none

def exactCondition (query : Value) (field : ExactField) :
    Except Failure (Option MessageCondition) :=
  conditionOf query field.key ((entry query field.key).map (.exact field))

/-- The conditions that a query sets, in the order in which the query is searched for them. -/
def conditions (query : Value) : Except Failure (Conditions MessageCondition) := do
  if query.isBlank then return []
  let exact ← ExactField.all.mapM (exactCondition query)
  let notBefore ← conditionOf query "from" do
    return .notBefore (← timeBound "from" (← entry query "from"))
  let notAfter ← conditionOf query "to" do
    return .notAfter (← timeBound "to" (← entry query "to"))
  let value ← conditionOf query "value" do
    let comparison ← chosenComparison query
    return .value comparison (← numberBound "value" (← entry query "value"))
  let valueSum ← conditionOf query "valueSum" do
    return .valueSum (← numberBound "valueSum" (← entry query "valueSum"))
  return Conditions.ofOptions (exact ++ [notBefore, notAfter, value, valueSum])

end Query

end DeviceRegistry.Filter
