import DeviceRegistry.Proofs.Store.Pages
import DeviceRegistry.Proofs.Store.Run
import Mathlib.Data.Option.Basic
import Mathlib.Tactic.MkIffOfInductiveProp

/-! What a query for messages asks for. A query is looked up by eight keys, so that other entries
and the order of all entries do not matter, and each entry that is found adds one condition. -/
namespace DeviceRegistry

/-- A text equals no other key than itself. -/
theorem Value.equals_text_iff {key : Value} {name : String} :
    key.equals (.text name) = true ↔ key = .text name := by
  cases key <;> simp [equals, equals.otherEquals, numeric?]

namespace Mapping

variable {entries other : Mapping} {name : String}

/-- An entry under another key stands in nobody's way. -/
theorem value?_insert {key : Value} (hOther : key ≠ .text name)
    (before after : Mapping) (raw : Value) :
    value? (before ++ (key, raw) :: after) (.text name) =
      value? (before ++ after) (.text name) := by
  have hUnequal : key.equals (.text name) = false := by
    rw [← Bool.not_eq_true, Value.equals_text_iff]
    exact hOther
  simp [value?, List.find?_append, hUnequal]

/-- Where no two keys are equal, the order of entries does not matter. -/
theorem value?_perm (hPerm : entries.Perm other)
    (hKeys : entries.Pairwise fun first second => first.1.equals second.1 = false) :
    value? entries (.text name) = value? other (.text name) := by
  let isNamed (entry : Value × Value) : Bool := entry.1.equals (.text name)
  have hSame : (entries.filter isNamed).head? = (other.filter isNamed).head? := by
    have hNamed := hPerm.filter isNamed
    have hFound := hKeys.filter isNamed
    have hName (entry : Value × Value) (hMem : entry ∈ entries.filter isNamed) :
        entry.1 = .text name :=
      Value.equals_text_iff.mp (List.mem_filter.mp hMem).2
    generalize entries.filter isNamed = found at hNamed hFound hName
    match found with
    | [] => rw [← hNamed.nil_eq]
    | [first] => rw [← List.singleton_perm.mp hNamed]
    | first :: second :: rest =>
        have hDiffer : first.1.equals second.1 = false :=
          (List.pairwise_cons.mp hFound).1 second (by simp)
        rw [hName first (by simp), hName second (by simp), Value.equals_text_iff.mpr rfl] at hDiffer
        cases hDiffer
  simp only [value?, ← List.head?_filter]
  exact congrArg (Option.map Prod.snd) hSame

end Mapping

namespace Filter.Conditions

variable {α : Type}

/-- The conditions that are added are those that are there. -/
theorem mem_ofOptions {options : List (Option α)} {condition : α} :
    condition ∈ ofOptions options ↔ some condition ∈ options := by
  have hAdded (found : Conditions α) :
      condition ∈ options.foldl add found ↔ condition ∈ found ∨ some condition ∈ options := by
    induction options generalizing found with
    | nil => simp
    | cons first options ih =>
        rw [List.foldl_cons, ih]
        cases first <;> simp [add, or_assoc]
  exact (hAdded []).trans (by simp)

theorem forall_mem_ofOptions (holds : α → Prop) (options : List (Option α)) :
    (∀ condition ∈ ofOptions options, holds condition) ↔
      ∀ option ∈ options, ∀ condition ∈ option, holds condition := by
  simp only [mem_ofOptions]
  exact ⟨fun hAll _ hOption condition hMem => hAll condition (hMem ▸ hOption),
    fun hAll condition hMem =>
    hAll _ hMem condition rfl⟩

end Filter.Conditions

structure Message.HasNumbers (message : Message) : Prop where
  time : message.time.isNaN = false
  value : ∀ x ∈ message.value, x.isNaN = false
  valueSum : ∀ x ∈ message.valueSum, x.isNaN = false

namespace Filter

namespace Comparison

def names : List (String × Comparison) :=
  [("eq", .equal), ("=", .equal), ("lt", .less), ("<", .less), ("le", .lessOrEqual),
    ("<=", .lessOrEqual), ("gt", .greater), (">", .greater), ("ge", .greaterOrEqual),
    (">=", .greaterOrEqual)]

theorem ofName?_eq_some_iff {name : String} {comparison : Comparison} :
    ofName? name = some comparison ↔ (name, comparison) ∈ names := by
  constructor
  · intro hNamed
    rw [ofName?] at hNamed
    split_ifs at hNamed with hName hName hName hName hName <;> cases hNamed <;>
      rcases hName with rfl | rfl <;> decide
  · intro hMem
    have hNames : ∀ entry ∈ names, ofName? entry.1 = some entry.2 := by decide
    exact hNames _ hMem

def sign : Comparison → String
  | .equal => "="
  | .less => "<"
  | .lessOrEqual => "<="
  | .greater => ">"
  | .greaterOrEqual => ">="

/-- Each comparison can be asked for by its sign. -/
theorem sign_mem_names (comparison : Comparison) : (comparison.sign, comparison) ∈ names := by
  cases comparison <;> decide

def Relates : Comparison → Binary64 → Binary64 → Prop
  | .equal, x, y => x.place = y.place
  | .less, x, y => x.place < y.place
  | .lessOrEqual, x, y => x.place ≤ y.place
  | .greater, x, y => y.place < x.place
  | .greaterOrEqual, x, y => y.place ≤ x.place

instance (comparison : Comparison) (x y : Binary64) : Decidable (comparison.Relates x y) :=
  match comparison with
  | .equal => inferInstanceAs (Decidable (x.place = y.place))
  | .less => inferInstanceAs (Decidable (x.place < y.place))
  | .lessOrEqual => inferInstanceAs (Decidable (x.place ≤ y.place))
  | .greater => inferInstanceAs (Decidable (y.place < x.place))
  | .greaterOrEqual => inferInstanceAs (Decidable (y.place ≤ x.place))

/-- Numbers are compared as the relation says, unless one of them is not a number. -/
theorem holds_iff (comparison : Comparison) {x y : Binary64} (hx : x.isNaN = false)
    (hy : y.isNaN = false) :
    comparison.holds x y = true ↔ comparison.Relates x y := by
  cases comparison <;> simp [holds, Relates, Binary64.equals, Binary64.less,
    Binary64.lessOrEqual, hx, hy]

end Comparison

structure Sought where
  subtopic : Option String := none
  publisher : Option String := none
  protocol : Option String := none
  notBefore : Option Binary64 := none
  notAfter : Option Binary64 := none
  value : Option (Comparison × Binary64) := none
  valueSum : Option Binary64 := none

namespace Sought

@[mk_iff]
structure IsMetBy (sought : Sought) (message : Message) : Prop where
  subtopic : ∀ text ∈ sought.subtopic, message.subtopic = text
  publisher : ∀ text ∈ sought.publisher, message.publisher = text
  protocol : ∀ text ∈ sought.protocol, message.protocol = text
  notBefore : ∀ time ∈ sought.notBefore, time.place ≤ message.time.place
  notAfter : ∀ time ∈ sought.notAfter, message.time.place ≤ time.place
  value : ∀ relation ∈ sought.value, ∃ x ∈ message.value, relation.1.Relates x relation.2
  valueSum : ∀ sum ∈ sought.valueSum, ∃ x ∈ message.valueSum, x.place = sum.place

instance (sought : Sought) (message : Message) : Decidable (sought.IsMetBy message) :=
  decidable_of_iff' _ (isMetBy_iff sought message)

/-- What is asked for of the number that a message carries comes on top of everything else. -/
theorem isMetBy_value_iff (sought : Sought) (comparison : Comparison) (x : Binary64)
    (message : Message) :
    { sought with value := some (comparison, x) }.IsMetBy message ↔
      { sought with value := none }.IsMetBy message ∧
        ∃ y ∈ message.value, comparison.Relates y x := by
  simp only [isMetBy_iff, Option.mem_some_iff, forall_eq', Option.not_mem_none,
    false_imp_iff, implies_true]
  grind

def conditions (sought : Sought) : Conditions MessageCondition :=
  .ofOptions [sought.subtopic.map fun text => .exact .subtopic (.text text),
    sought.publisher.map fun text => .exact .publisher (.text text),
    sought.protocol.map fun text => .exact .protocol (.text text), sought.notBefore.map .notBefore,
    sought.notAfter.map .notAfter, sought.value.map fun relation => .value relation.1 relation.2,
    sought.valueSum.map .valueSum]

structure HasNumbers (sought : Sought) : Prop where
  notBefore : ∀ time ∈ sought.notBefore, time.isNaN = false
  notAfter : ∀ time ∈ sought.notAfter, time.isNaN = false
  value : ∀ relation ∈ sought.value, relation.2.isNaN = false
  valueSum : ∀ sum ∈ sought.valueSum, sum.isNaN = false

/-- Messages that carry numbers meet the conditions exactly if they have what is asked for. -/
theorem isMetBy_iff_holds {sought : Sought} (hSought : sought.HasNumbers) {message : Message}
    (hMessage : message.HasNumbers) :
    sought.IsMetBy message ↔ ∀ condition ∈ sought.conditions, condition.holds message = true := by
  have hExact (field : ExactField) (text : String) :
      (MessageCondition.exact field (.text text)).holds message = true ↔
      field.ofMessage message = text := by
    rw [MessageCondition.holds, Value.equalsText_text, decide_eq_true_eq, eq_comm]
  have hNotBefore (time : Binary64) (hTime : time ∈ sought.notBefore) :
      (MessageCondition.notBefore time).holds message = true ↔ time.place ≤ message.time.place := by
    simp [MessageCondition.holds, Binary64.lessOrEqual, hSought.notBefore time hTime, hMessage.time]
  have hNotAfter (time : Binary64) (hTime : time ∈ sought.notAfter) :
      (MessageCondition.notAfter time).holds message = true ↔ message.time.place ≤ time.place := by
    simp [MessageCondition.holds, Binary64.lessOrEqual, hSought.notAfter time hTime, hMessage.time]
  have hValue (relation : Comparison × Binary64) (hRelation : relation ∈ sought.value) :
      (MessageCondition.value relation.1 relation.2).holds message = true ↔
        ∃ x ∈ message.value, relation.1.Relates x relation.2 := by
    rw [MessageCondition.holds, Option.any_eq_true]
    exact exists_congr fun x => and_congr_right fun hx =>
      relation.1.holds_iff (hMessage.value x hx) (hSought.value relation hRelation)
  have hSum (sum : Binary64) (hSum : sum ∈ sought.valueSum) :
      (MessageCondition.valueSum sum).holds message = true ↔
      ∃ x ∈ message.valueSum, x.place = sum.place := by
    rw [MessageCondition.holds, Option.any_eq_true]
    exact exists_congr fun x => and_congr_right fun hx =>
      Comparison.equal.holds_iff (hMessage.valueSum x hx) (hSought.valueSum sum hSum)
  simp only [conditions, Conditions.forall_mem_ofOptions, List.forall_mem_cons,
    Option.forall_mem_map, hExact]
  rw [forall₂_congr hNotBefore, forall₂_congr hNotAfter, forall₂_congr hValue,
    forall₂_congr hSum, isMetBy_iff]
  simp [ExactField.ofMessage]

end Sought

namespace Query

variable {entries other : Mapping}

/-- The comparison that entries choose. It is equality where nothing is named. -/
inductive Chooses (entries : Mapping) : Comparison → Prop
  | missing (hName : Mapping.value? entries (.text "comparator") = none) : Chooses entries .equal
  | blank {name : Value} (hName : Mapping.value? entries (.text "comparator") = some name)
      (hBlank : name.isBlank = true) : Chooses entries .equal
  | named {name : String} {comparison : Comparison}
      (hName : Mapping.value? entries (.text "comparator") = some (.text name))
      (hNamed : (name, comparison) ∈ Comparison.names) : Chooses entries comparison

/-- A comparison is named by its word or its sign, and nothing at all names equality. -/
theorem comparison_eq_ok_iff {name : Value} {chosen : Comparison} :
    comparison name = .ok chosen ↔
      name.isBlank = true ∧ chosen = .equal ∨ ∃ text, name = .text text ∧
      (text, chosen) ∈ Comparison.names := by
  unfold comparison
  by_cases hBlank : name.isBlank = true
  · have hUnnamed : ¬ ∃ text, name = .text text ∧ (text, chosen) ∈ Comparison.names := by
      rintro ⟨text, rfl, hNamed⟩
      have hEmpty : text = "" := by simpa [Value.isBlank] using hBlank
      have hWord : ∀ entry ∈ Comparison.names, entry.1 ≠ "" := by decide
      exact hWord _ hNamed hEmpty
    simp [hBlank, hUnnamed, eq_comm]
  · rw [if_neg hBlank]
    cases name with
    | text s =>
        simp only [hBlank, ← Comparison.ofName?_eq_some_iff, Value.text.injEq, exists_eq_left']
        cases Comparison.ofName? s <;> simp [isComparable]
    | _ =>
        refine iff_of_false ?_ (by simp [hBlank])
        dsimp only
        split <;> simp

/-- A query chooses the comparison that is found under its key. -/
theorem chosenComparison_eq_ok_iff {chosen : Comparison} :
    chosenComparison (.map entries) = .ok chosen ↔ Chooses entries chosen := by
  rw [chosenComparison, comparison_eq_ok_iff]
  constructor
  · intro hChosen
    cases hName : Mapping.value? entries (.text "comparator") with
    | none =>
        obtain ⟨-, rfl⟩ : _ ∧ chosen = .equal := by simpa [hName] using hChosen
        exact .missing hName
    | some name =>
        rw [hName, Option.getD_some] at hChosen
        rcases hChosen with ⟨hBlank, rfl⟩ | ⟨text, rfl, hNamed⟩
        · exact .blank hName hBlank
        · exact .named hName hNamed
  · intro hChooses
    cases hChooses with
    | missing hName =>
        rw [hName]
        exact Or.inl ⟨rfl, rfl⟩
    | blank hName hBlank =>
        rw [hName]
        exact Or.inl ⟨hBlank, rfl⟩
    | named hName hNamed =>
        rw [hName]
        exact Or.inr ⟨_, rfl, hNamed⟩

/-- The entry of a key means what was found, and nothing was found where the key is missing. -/
def Finds {α : Type} (entries : Mapping) (key : String) (means : Value → α → Prop)
    (found : Option α) : Prop :=
  Option.Rel means (Mapping.value? entries (.text key)) found

def IsReadAs (read : Value → Except Failure Binary64) (raw : Value) (x : Binary64) : Prop :=
  read raw = .ok x ∧ x.isNaN = false

structure Asks (entries : Mapping) (sought : Sought) : Prop where
  subtopic : Finds entries "subtopic" (fun raw text => raw = .text text) sought.subtopic
  publisher : Finds entries "publisher" (fun raw text => raw = .text text) sought.publisher
  protocol : Finds entries "protocol" (fun raw text => raw = .text text) sought.protocol
  notBefore : Finds entries "from" (IsReadAs (timeBound "from")) sought.notBefore
  notAfter : Finds entries "to" (IsReadAs (timeBound "to")) sought.notAfter
  value : Finds entries "value"
    (fun raw relation => Chooses entries relation.1 ∧
      IsReadAs (numberBound "value") raw relation.2) sought.value
  valueSum : Finds entries "valueSum" (IsReadAs (numberBound "valueSum")) sought.valueSum

/-- An empty mapping is searched like any other. -/
theorem conditions_map (entries : Mapping) :
    conditions (.map entries) = do
      let exact ← ExactField.all.mapM (exactCondition (.map entries))
      let notBefore ← conditionOf (.map entries) "from" do
        return .notBefore (← timeBound "from" (← entry (.map entries) "from"))
      let notAfter ← conditionOf (.map entries) "to" do
        return .notAfter (← timeBound "to" (← entry (.map entries) "to"))
      let value ← conditionOf (.map entries) "value" do
        let comparison ← chosenComparison (.map entries)
        return .value comparison (← numberBound "value" (← entry (.map entries) "value"))
      let valueSum ← conditionOf (.map entries) "valueSum" do
        return .valueSum (← numberBound "valueSum" (← entry (.map entries) "valueSum"))
      return Conditions.ofOptions (exact ++ [notBefore, notAfter, value, valueSum]) := by
  unfold conditions
  cases entries <;> rfl

/-- The entry of a mapping is the value under the key. -/
theorem entry_map {key : String} {raw : Value}
    (hRaw : Mapping.value? entries (.text key) = some raw) :
    entry (.map entries) key = .ok raw := by
  rw [entry, hRaw]
  rfl

/-- The condition of a key that means something. -/
theorem conditionOf_of_finds {α : Type} {key : String} {means : Value → α → Prop} {found : Option α}
    (hFinds : Finds entries key means found) {read : Except Failure MessageCondition}
    (make : α → MessageCondition)
    (hRead : ∀ raw x, entry (.map entries) key = .ok raw → means raw x → read = .ok (make x)) :
    conditionOf (.map entries) key read = .ok (found.map make) := by
  rw [Finds] at hFinds
  rw [conditionOf, hasEntry]
  cases hRaw : Mapping.value? entries (.text key) with
  | none =>
      rw [hRaw] at hFinds
      cases hFinds
      rfl
  | some raw =>
      rw [hRaw] at hFinds
      cases hFinds with
      | some hMeans =>
          rw [hRead _ _ (entry_map hRaw) hMeans]
          rfl

/-- The condition of a key under which a bound stands. -/
theorem boundCondition_of_finds {key : String} {read : Value → Except Failure Binary64}
    {found : Option Binary64} (hFinds : Finds entries key (IsReadAs read) found)
    (make : Binary64 → MessageCondition) :
    (conditionOf (.map entries) key do return make (← read (← entry (.map entries) key))) =
      .ok (found.map make) := by
  refine conditionOf_of_finds hFinds make fun raw x hEntry hMeans => ?_
  rw [hEntry]
  change (read raw >>= _) = _
  rw [hMeans.1]
  rfl

theorem exactCondition_of_finds (field : ExactField) {found : Option String}
    (hFinds : Finds entries field.key (fun raw text => raw = .text text) found) :
    exactCondition (.map entries) field =
      .ok (found.map fun text => .exact field (.text text)) := by
  refine conditionOf_of_finds hFinds _ fun raw text hEntry hText => ?_
  rw [hEntry, hText]
  rfl

/-- A number and the comparison that was chosen for it make one condition. -/
theorem valueCondition_of_finds {found : Option (Comparison × Binary64)}
    (hFinds : Finds entries "value"
      (fun raw relation => Chooses entries relation.1 ∧
        IsReadAs (numberBound "value") raw relation.2) found) :
    (conditionOf (.map entries) "value" do
      let comparison ← chosenComparison (.map entries)
      return .value comparison (← numberBound "value" (← entry (.map entries) "value"))) =
      .ok (found.map fun relation => .value relation.1 relation.2) := by
  refine conditionOf_of_finds hFinds _ fun raw relation hEntry hMeans => ?_
  rw [chosenComparison_eq_ok_iff.mpr hMeans.1, hEntry]
  change (numberBound "value" raw >>= _) = _
  rw [hMeans.2.1]
  rfl

/-- A query sets the conditions for what it asks for. -/
theorem conditions_of_asks {sought : Sought} (hAsks : Asks entries sought) :
    conditions (.map entries) = .ok sought.conditions := by
  have hExact : ExactField.all.mapM (exactCondition (.map entries)) =
      .ok [sought.subtopic.map fun text => .exact .subtopic (.text text),
        sought.publisher.map fun text => .exact .publisher (.text text),
        sought.protocol.map fun text => .exact .protocol (.text text)] := by
    simp only [ExactField.all, List.mapM_cons, List.mapM_nil,
      exactCondition_of_finds .subtopic hAsks.subtopic,
      exactCondition_of_finds .publisher hAsks.publisher,
      exactCondition_of_finds .protocol hAsks.protocol]
    rfl
  rw [conditions_map, hExact, boundCondition_of_finds hAsks.notBefore,
    boundCondition_of_finds hAsks.notAfter, valueCondition_of_finds hAsks.value,
    boundCondition_of_finds hAsks.valueSum]
  rfl

def keys : List String := ["subtopic", "publisher", "protocol", "from", "to", "value", "valueSum"]

/-- Two queries have the same entries as far as they matter. A comparison matters only where there
is a number to compare with. -/
structure Agree (entries other : Mapping) : Prop where
  filters : ∀ key ∈ keys, Mapping.value? entries (.text key) = Mapping.value? other (.text key)
  comparison : (Mapping.value? entries (.text "value")).isSome = true →
    Mapping.value? entries (.text "comparator") = Mapping.value? other (.text "comparator")

theorem entry_congr {key : String}
    (hSame : Mapping.value? entries (.text key) = Mapping.value? other (.text key)) :
    entry (.map entries) key = entry (.map other) key := by
  rw [entry, entry, hSame]

/-- A condition depends only on the entry under its key, and on what is read there. -/
theorem conditionOf_congr {key : String} {read readOther : Except Failure MessageCondition}
    (hSame : Mapping.value? entries (.text key) = Mapping.value? other (.text key))
    (hRead : (Mapping.value? entries (.text key)).isSome = true → read = readOther) :
    conditionOf (.map entries) key read = conditionOf (.map other) key readOther := by
  rw [conditionOf, conditionOf, hasEntry, hasEntry, ← hSame]
  cases hSome : (Mapping.value? entries (.text key)).isSome with
  | false => rfl
  | true => rw [hRead hSome]

/-- What a query asks for is all that matters of it. -/
theorem conditions_of_agree (hAgree : Agree entries other) :
    conditions (.map entries) = conditions (.map other) := by
  have hBound (key : String) (hKey : key ∈ keys) (read : Except Failure Value →
      Except Failure MessageCondition) :
      conditionOf (.map entries) key (read (entry (.map entries) key)) =
        conditionOf (.map other) key (read (entry (.map other) key)) :=
    conditionOf_congr (hAgree.filters key hKey)
      fun _ => by rw [entry_congr (hAgree.filters key hKey)]
  have hExact : exactCondition (.map entries) = exactCondition (.map other) := by
    funext field
    exact hBound field.key (by cases field <;> simp [keys, ExactField.key]) (·.map (.exact field))
  have hValue : (conditionOf (.map entries) "value" do
        let comparison ← chosenComparison (.map entries)
        return .value comparison (← numberBound "value" (← entry (.map entries) "value"))) =
      conditionOf (.map other) "value" do
        let comparison ← chosenComparison (.map other)
        return .value comparison (← numberBound "value" (← entry (.map other) "value")) := by
    have hSame := hAgree.filters "value" (by simp [keys])
    refine conditionOf_congr hSame fun hSome => ?_
    rw [chosenComparison, chosenComparison, hAgree.comparison hSome, entry_congr hSame]
  rw [conditions_map, conditions_map, hExact, hValue,
    hBound "from" (by simp [keys]) fun raw => do return .notBefore (← timeBound "from" (← raw)),
    hBound "to" (by simp [keys]) fun raw => do return .notAfter (← timeBound "to" (← raw)),
    hBound "valueSum" (by simp [keys]) fun raw =>
      do return .valueSum (← numberBound "valueSum" (← raw))]

theorem conditionOf_of_isSome {key : String}
    (hSome : (Mapping.value? entries (.text key)).isSome = true)
    (read : Except Failure MessageCondition) :
    conditionOf (.map entries) key read = read.map some := by
  rw [conditionOf, hasEntry, hSome]
  cases read <;> rfl

/-- A query that is understood and has a number to compare with sets a condition for it. -/
theorem exists_value_condition {found : Conditions MessageCondition}
    (hFound : conditions (.map entries) = .ok found)
    (hValue : (Mapping.value? entries (.text "value")).isSome = true) :
    ∃ chosen bound, Chooses entries chosen ∧ .value chosen bound ∈ found := by
  rw [conditions_map] at hFound
  obtain ⟨exact, -, hFound⟩ := bind_ok_iff.mp hFound
  obtain ⟨notBefore, -, hFound⟩ := bind_ok_iff.mp hFound
  obtain ⟨notAfter, -, hFound⟩ := bind_ok_iff.mp hFound
  obtain ⟨value, hCondition, hFound⟩ := bind_ok_iff.mp hFound
  obtain ⟨valueSum, -, hFound⟩ := bind_ok_iff.mp hFound
  rw [conditionOf_of_isSome hValue] at hCondition
  obtain ⟨condition, hRead, rfl⟩ := map_ok_iff.mp hCondition
  obtain ⟨chosen, hChosen, hRead⟩ := bind_ok_iff.mp hRead
  obtain ⟨raw, -, hRead⟩ := bind_ok_iff.mp hRead
  obtain ⟨bound, -, hRead⟩ := bind_ok_iff.mp hRead
  cases hRead
  cases hFound
  exact ⟨chosen, bound, chosenComparison_eq_ok_iff.mp hChosen, by simp [Conditions.mem_ofOptions]⟩

/-- The entries are understood one by one: exact fields are texts, and bounds are read
as numbers. -/
structure IsUnderstood (entries : Mapping) : Prop where
  exact : ∀ field : ExactField, ∀ raw ∈ Mapping.value? entries (.text field.key),
    ∃ text, raw = .text text
  notBefore : ∀ raw ∈ Mapping.value? entries (.text "from"), ∃ x, IsReadAs (timeBound "from") raw x
  notAfter : ∀ raw ∈ Mapping.value? entries (.text "to"), ∃ x, IsReadAs (timeBound "to") raw x
  value : ∀ raw ∈ Mapping.value? entries (.text "value"), ∃ x, IsReadAs (numberBound "value") raw x
  valueSum : ∀ raw ∈ Mapping.value? entries (.text "valueSum"),
    ∃ x, IsReadAs (numberBound "valueSum") raw x

theorem exists_finds {α : Type} {key : String} {means : Value → α → Prop}
    (hMeans : ∀ raw ∈ Mapping.value? entries (.text key), ∃ x, means raw x) :
    ∃ found, Finds entries key means found := by
  simp only [Finds]
  cases hRaw : Mapping.value? entries (.text key) with
  | none => exact ⟨none, .none⟩
  | some raw =>
      obtain ⟨x, hx⟩ := hMeans raw hRaw
      exact ⟨some x, .some hx⟩

/-- Entries that are understood ask for something, unless they have a number to compare with and
choose no comparison. -/
theorem exists_asks (hUnderstood : IsUnderstood entries)
    (hChooses : (Mapping.value? entries (.text "value")).isSome = true →
      ∃ chosen, Chooses entries chosen) :
    ∃ sought, Asks entries sought := by
  obtain ⟨subtopic, hSubtopic⟩ := exists_finds (hUnderstood.exact .subtopic)
  obtain ⟨publisher, hPublisher⟩ := exists_finds (hUnderstood.exact .publisher)
  obtain ⟨protocol, hProtocol⟩ := exists_finds (hUnderstood.exact .protocol)
  obtain ⟨notBefore, hNotBefore⟩ := exists_finds hUnderstood.notBefore
  obtain ⟨notAfter, hNotAfter⟩ := exists_finds hUnderstood.notAfter
  obtain ⟨valueSum, hSum⟩ := exists_finds hUnderstood.valueSum
  have hRelation : ∀ raw ∈ Mapping.value? entries (.text "value"),
      ∃ relation : Comparison × Binary64,
      Chooses entries relation.1 ∧ IsReadAs (numberBound "value") raw relation.2 := by
    intro raw hRaw
    obtain ⟨chosen, hChosen⟩ := hChooses (Option.isSome_of_mem hRaw)
    obtain ⟨x, hx⟩ := hUnderstood.value raw hRaw
    exact ⟨(chosen, x), hChosen, hx⟩
  obtain ⟨value, hValue⟩ := exists_finds hRelation
  exact ⟨⟨subtopic, publisher, protocol, notBefore, notAfter, value, valueSum⟩,
    hSubtopic, hPublisher, hProtocol, hNotBefore, hNotAfter, hValue, hSum⟩

theorem Finds.exists_of_mem {α : Type} {key : String} {means : Value → α → Prop}
    {found : Option α} {x : α} (hFinds : Finds entries key means found) (hFound : x ∈ found) :
    ∃ raw, means raw x := by
  cases hFound
  rw [Finds] at hFinds
  cases hRaw : Mapping.value? entries (.text key) with
  | none =>
      rw [hRaw] at hFinds
      cases hFinds
  | some raw =>
      rw [hRaw, Option.rel_some_some] at hFinds
      exact ⟨raw, hFinds⟩

/-- What a query asks for has numbers for its bounds. -/
theorem Asks.hasNumbers {sought : Sought} (hAsks : Asks entries sought) : sought.HasNumbers where
  notBefore _ hTime := (hAsks.notBefore.exists_of_mem hTime).elim fun _ hRead => hRead.2
  notAfter _ hTime := (hAsks.notAfter.exists_of_mem hTime).elim fun _ hRead => hRead.2
  value _ hRelation := (hAsks.value.exists_of_mem hRelation).elim fun _ hRead => hRead.2.2
  valueSum _ hSum := (hAsks.valueSum.exists_of_mem hSum).elim fun _ hRead => hRead.2

/-- The entry is under a key that a query is not searched for, or it chooses a comparison where
there is no number to compare with. -/
def IsPassedOver (entries : Mapping) (key : Value) : Prop :=
  (∀ name ∈ "comparator" :: keys, key ≠ .text name) ∨
    key = .text "comparator" ∧ Mapping.value? entries (.text "value") = none

/-- An entry that is passed over does not matter, wherever it stands. -/
theorem agree_insert {key : Value} {before after : Mapping}
    (hPassed : IsPassedOver (before ++ after) key) (raw : Value) :
    Agree (before ++ (key, raw) :: after) (before ++ after) := by
  have hKeys : ∀ name ∈ keys, key ≠ .text name := by
    rcases hPassed with hUnknown | ⟨rfl, -⟩
    · exact fun name hName => hUnknown name (List.mem_cons_of_mem _ hName)
    · rintro name hName ⟨⟩
      exact absurd hName (by decide)
  have hFilters : ∀ name ∈ keys, Mapping.value? (before ++ (key, raw) :: after) (.text name) =
      Mapping.value? (before ++ after) (.text name) :=
    fun name hName => Mapping.value?_insert (hKeys name hName) before after raw
  refine ⟨hFilters, fun hValue => ?_⟩
  rcases hPassed with hUnknown | ⟨-, hNone⟩
  · exact Mapping.value?_insert (hUnknown "comparator" List.mem_cons_self) before after raw
  · rw [hFilters "value" (by decide), hNone] at hValue
    cases hValue

/-- The order of entries does not matter. -/
theorem agree_perm (hPerm : entries.Perm other)
    (hKeys : entries.Pairwise fun first second => first.1.equals second.1 = false) :
    Agree entries other :=
  ⟨fun _ _ => Mapping.value?_perm hPerm hKeys, fun _ => Mapping.value?_perm hPerm hKeys⟩

end Query

/-- The storage engine takes all that a query asks for. -/
theorem Sought.areTaken_parameters (sought : Sought) :
    Cell.AreTaken (sought.conditions.flatMap MessageCondition.parameters) := by
  have hReal (x : Binary64) : ∃ cell, (Value.real x).toCell = .ok cell := ⟨_, rfl⟩
  have hText (text : String) : ∃ cell, (Value.text text).toCell = .ok cell := ⟨_, rfl⟩
  have hTaken : ∀ condition ∈ sought.conditions, Cell.AreTaken condition.parameters := by
    simp only [conditions, Conditions.forall_mem_ofOptions, List.forall_mem_cons,
      Option.forall_mem_map, Cell.AreTaken, MessageCondition.parameters,
      Value.comparisonParameters, hReal, hText]
    simp
  intro value hValue
  obtain ⟨condition, hCondition, hMem⟩ := List.mem_flatMap.mp hValue
  exact hTaken condition hCondition value hMem

end Filter

end DeviceRegistry
