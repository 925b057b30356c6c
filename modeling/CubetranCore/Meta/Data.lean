import Mathlib.Data.List.AList

namespace CubetranCore

inductive RowType where
  | insert
  | update
  | delete
  deriving DecidableEq, Repr

inductive ColValue where
  | none
  | tiny (value : BitVec 8)
  | unsignedTiny (value : UInt8)
  | short (value : BitVec 16)
  | unsignedShort (value : UInt16)
  | long (value : BitVec 32)
  | unsignedLong (value : UInt32)
  | longLong (value : BitVec 64)
  | unsignedLongLong (value : UInt64)
  | float (bits : UInt32)
  | double (bits : UInt64)
  | decimal (value : String)
  | time (value : String)
  | date (value : String)
  | dateTime (value : String)
  | timestamp (value : String)
  | year (value : UInt16)
  | string (value : String)
  | blob (value : List UInt8)
  | bit (value : UInt64)
  | set2 (value : String)
  | enum2 (value : String)
  | json (value : List UInt8)
  deriving DecidableEq, Repr

/-- A `HashMap<String, ColValue>`: one value per column name. -/
abbrev ColMap := AList (fun _ : String => ColValue)

structure RowData where
  schema : String
  tb : String
  rowType : RowType
  before : Option ColMap
  after : Option ColMap
  dataSize : Nat

def RowData.Wellformed (r : RowData) : Prop :=
  match r.rowType with
  | .insert => r.after.isSome ∧ r.before = none
  | .update => r.before.isSome ∧ r.after.isSome
  | .delete => r.before.isSome ∧ r.after = none

instance (r : RowData) : Decidable r.Wellformed :=
  match h : r.rowType with
  | .insert => decidable_of_iff (r.after.isSome ∧ r.before = none) (by simp [RowData.Wellformed, h])
  | .update => decidable_of_iff (r.before.isSome ∧ r.after.isSome) (by simp [RowData.Wellformed, h])
  | .delete => decidable_of_iff (r.before.isSome ∧ r.after = none) (by simp [RowData.Wellformed, h])

inductive DdlType where
  | createDatabase
  | dropDatabase
  | createTable
  | dropTable
  | tuncateTable
  | renameTable
  | alterDatabase
  | alterTable
  | unknown
  deriving DecidableEq, Repr

instance : Inhabited DdlType := ⟨.unknown⟩

structure DdlData where
  schema : String
  tb : String
  query : String
  ddlType : DdlType
  deriving DecidableEq, Repr

structure RedisEntry where
  isRaw : Bool
  cmdName : String
  deriving DecidableEq, Repr

def eqIgnoreAsciiCase (a b : String) : Bool :=
  a.map Char.toLower == b.map Char.toLower

def RedisEntry.isPing (entry : RedisEntry) : Bool :=
  !entry.isRaw && eqIgnoreAsciiCase entry.cmdName "ping"

inductive DtData where
  | dml (rowData : RowData)
  | ddl (ddlData : DdlData)
  | begin
  | commit
  | redis (entry : RedisEntry)

def DtData.isCommit : DtData → Bool
  | .commit => true
  | _ => false

def DtData.isBegin : DtData → Bool
  | .begin => true
  | _ => false

def DtData.dmlRow : DtData → Option RowData
  | .dml rowData => some rowData
  | _ => none

def DtData.ddlData : DtData → Option DdlData
  | .ddl ddlData => some ddlData
  | _ => none

def DtData.isRedis : DtData → Bool
  | .redis _ => true
  | _ => false

/-- A queue item; `P` is the opaque source position, which no pipeline function inspects. -/
structure DtItem (P : Type) where
  dtData : DtData
  position : P
  dataOriginNode : String

def DtItem.mapPosition {P Q : Type} (f : P → Q) (i : DtItem P) : DtItem Q :=
  { i with position := f i.position }

@[simp] theorem DtItem.mapPosition_dtData {P Q : Type} (f : P → Q) (i : DtItem P) :
    (i.mapPosition f).dtData = i.dtData := rfl

@[simp] theorem DtItem.mapPosition_position {P Q : Type} (f : P → Q) (i : DtItem P) :
    (i.mapPosition f).position = f i.position := rfl

@[simp] theorem DtItem.mapPosition_dataOriginNode {P Q : Type} (f : P → Q) (i : DtItem P) :
    (i.mapPosition f).dataOriginNode = i.dataOriginNode := rfl

inductive CounterType where
  | bufferSize
  | records
  | recordsPerQuery
  | rtPerQuery
  | serialWrites
  | sinkedCount
  deriving DecidableEq, Repr

/-- The updates a `Monitor` has received, oldest first: counter, value, record count. -/
abbrev Monitor := List (CounterType × Nat × Nat)

def Monitor.addCounter (m : Monitor) (t : CounterType) (value : Nat) : Monitor :=
  m ++ [(t, value, 1)]

def Monitor.addBatchCounter (m : Monitor) (t : CounterType) (value count : Nat) : Monitor :=
  m ++ [(t, value, count)]

inductive Error where
  | metadataError (error : String)
  | unexpected (error : String)
  | httpError (error : String)
  | other (error : String)
  deriving DecidableEq, Repr

/-- How a task ends when it does not return `Ok`: an `Err` it returns, or a panic of an `unwrap`. -/
inductive Fault where
  | error (e : Error)
  | panic
  deriving DecidableEq, Repr

def unwrap {ε α : Type} : Except ε α → Except Fault α
  | .ok a => .ok a
  | .error _ => .error .panic

def unwrapSome {α : Type} : Option α → Except Fault α
  | some a => .ok a
  | none => .error .panic

@[simp] theorem unwrap_ok {ε α : Type} (a : α) : unwrap (.ok a : Except ε α) = .ok a := rfl
@[simp] theorem unwrapSome_some {α : Type} (a : α) : unwrapSome (some a) = .ok a := rfl

@[simp] theorem ok_bind {ε α β : Type} (a : α) (f : α → Except ε β) :
    (Except.ok a >>= f) = f a := rfl

theorem map_eq_ok {α β ε : Type} {g : α → β} {x : Except ε α} {b : β} (h : x.map g = .ok b) :
    ∃ a, x = .ok a ∧ g a = b := by
  cases x with
  | error e => cases h
  | ok a => exact ⟨a, rfl, by cases h; rfl⟩

theorem bind_eq_ok {α β ε : Type} {x : Except ε α} {f : α → Except ε β} {b : β}
    (h : x >>= f = .ok b) : ∃ a, x = .ok a ∧ f a = .ok b := by
  cases x with
  | error e => cases h
  | ok a => exact ⟨a, rfl, h⟩

theorem mapM_unwrapSome_eq_ok {α β : Type} {f : α → Option β} {l : List α} {bs : List β}
    (h : l.map f = bs.map some) : l.mapM (fun a => unwrapSome (f a)) = .ok bs := by
  induction l generalizing bs with
  | nil => cases bs with
    | nil => rfl
    | cons b bs => cases h
  | cons a l ih =>
    cases bs with
    | nil => cases h
    | cons b bs =>
      simp only [List.map_cons, List.cons.injEq] at h
      rw [List.mapM_cons, h.1, unwrapSome_some, ok_bind, ih h.2]
      rfl

theorem mapM_unwrapSome_eq_panic {α β : Type} {f : α → Option β} :
    ∀ {l : List α}, (∃ a ∈ l, f a = none) → l.mapM (fun a => unwrapSome (f a)) = .error .panic
  | a :: l, ⟨a', ha', hnone⟩ => by
    rw [List.mapM_cons]
    cases hfa : f a with
    | none => rfl
    | some b =>
      have hl : ∃ a ∈ l, f a = none := by
        rcases List.mem_cons.mp ha' with rfl | ha'
        · rw [hfa] at hnone
          cases hnone
        · exact ⟨a', ha', hnone⟩
      rw [unwrapSome_some, ok_bind, mapM_unwrapSome_eq_panic hl]
      rfl

end CubetranCore
