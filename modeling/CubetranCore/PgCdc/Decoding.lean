import CubetranCore.PgCdc.Extractor

namespace CubetranCore.PgCdc

variable {T : Type}

section Relation

variable (env : PgCdcEnv T)

def CellValue (ty : T) : TupleData → ColValue → Prop
  | .null, v => v = .none
  | .text value, v => env.fromWal ty value = .ok v
  | .unchangedToast, _ => False

theorem parseRowDataFrom_cons_eq {tbMeta : PgTbMeta T} {i : Nat} {col : String} {ty : T}
    {td : TupleData} {v : ColValue} (hcol : tbMeta.cols[i]? = some col)
    (hty : tbMeta.colTypeMap.lookup col = some ty) (hv : CellValue env ty td v)
    (rest : List TupleData) (acc : ColMap) :
    parseRowDataFrom env tbMeta i (td :: rest) acc =
      parseRowDataFrom env tbMeta (i + 1) rest (acc.insert col v) := by
  cases td with
  | null => cases hv; simp only [parseRowDataFrom, hcol, hty, unwrapSome_some, ok_bind]
  | text value =>
    simp only [parseRowDataFrom, hcol, hty, unwrapSome_some, ok_bind,
      show env.fromWal ty value = .ok v from hv]
    rfl
  | unchangedToast => cases hv

end Relation

end CubetranCore.PgCdc
