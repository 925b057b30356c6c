import CubetranCore.Precheck.MysqlFetcher

namespace CubetranCore.Precheck

/-- The pattern syntax `MONGO_SUPPORTED_VERSION_REGEX` uses: a character, `.`, concatenation,
alternation and `*`. -/
inductive Regex where
  | char (c : Char)
  | any
  | concat (r s : Regex)
  | alt (r s : Regex)
  | star (r : Regex)
  deriving DecidableEq, Repr

/-- The strings a pattern matches as a whole, as the `regex` crate reads it by default: `.`
matches every character but a newline. -/
inductive Regex.Matches : Regex → List Char → Prop where
  | char (c : Char) : Matches (.char c) [c]
  | any {c : Char} : c ≠ '\n' → Matches .any [c]
  | concat {r s : Regex} {u v : List Char} : Matches r u → Matches s v → Matches (.concat r s) (u ++ v)
  | altLeft {r s : Regex} {u : List Char} : Matches r u → Matches (.alt r s) u
  | altRight {r s : Regex} {u : List Char} : Matches s u → Matches (.alt r s) u
  | starNil {r : Regex} : Matches (.star r) []
  | starCons {r : Regex} {u v : List Char} : Matches r u → Matches (.star r) v →
      Matches (.star r) (u ++ v)

/-- `Regex::is_match`: the pattern matches somewhere in the text. -/
def Regex.IsMatch (r : Regex) (text : String) : Prop :=
  ∃ pre u post, text.toList = pre ++ u ++ post ∧ r.Matches u

/-- `MONGO_SUPPORTED_VERSION_REGEX`, `r"5.*|6.0.*"`. -/
def mongoSupportedVersionRegex : Regex :=
  .alt (.concat (.char '5') (.star .any))
    (.concat (.char '6') (.concat .any (.concat (.char '0') (.star .any))))

def HasSupportedMark (l : List Char) : Prop :=
  '5' ∈ l ∨ ∃ pre c post, l = pre ++ '6' :: c :: '0' :: post ∧ c ≠ '\n'

def supportedMark : List Char → Bool
  | [] => false
  | c :: cs =>
    c == '5' || (c == '6' && (match cs with
      | d :: e :: _ => d != '\n' && e == '0'
      | _ => false)) || supportedMark cs

theorem hasSupportedMark_cons {c : Char} {cs : List Char} (h : HasSupportedMark cs) :
    HasSupportedMark (c :: cs) := by
  rcases h with h | ⟨pre, d, post, rfl, hd⟩
  · exact .inl (List.mem_cons_of_mem c h)
  · exact .inr ⟨c :: pre, d, post, rfl, hd⟩

theorem supportedMark_iff : ∀ l : List Char, supportedMark l = true ↔ HasSupportedMark l
  | [] => by simp [supportedMark, HasSupportedMark]
  | c :: cs => by
    have ih := supportedMark_iff cs
    constructor
    · intro h
      simp only [supportedMark, Bool.or_eq_true, Bool.and_eq_true, beq_iff_eq] at h
      rcases h with (rfl | ⟨rfl, hz⟩) | h
      · exact .inl (List.mem_cons_self _ _)
      · match cs, hz with
        | d :: e :: rest, hz =>
          simp only [Bool.and_eq_true, bne_iff_ne, ne_eq, beq_iff_eq] at hz
          exact .inr ⟨[], d, rest, by rw [hz.2]; rfl, hz.1⟩
      · exact hasSupportedMark_cons (ih.mp h)
    · intro h
      simp only [supportedMark, Bool.or_eq_true, Bool.and_eq_true, beq_iff_eq]
      rcases h with h | ⟨pre, d, post, hl, hd⟩
      · rcases List.mem_cons.mp h with rfl | h
        · exact .inl (.inl rfl)
        · exact .inr (ih.mpr (.inl h))
      · cases pre with
        | nil =>
          cases hl
          exact .inl (.inr ⟨rfl, by simp [hd]⟩)
        | cons p pre =>
          cases hl
          exact .inr (ih.mpr (.inr ⟨pre, d, post, rfl, hd⟩))

instance : DecidablePred HasSupportedMark :=
  fun l => decidable_of_iff _ (supportedMark_iff l)

theorem isMatch_mongoSupportedVersionRegex_iff (version : String) :
    mongoSupportedVersionRegex.IsMatch version ↔ HasSupportedMark version.toList := by
  constructor
  · rintro ⟨pre, u, post, hv, hm⟩
    rw [hv]
    cases hm with
    | altLeft h =>
      cases h with
      | concat hfive _ =>
        cases hfive
        exact .inl (by simp)
    | altRight h =>
      cases h with
      | concat hsix hrest =>
        cases hsix
        cases hrest with
        | concat hdot hzero =>
          cases hdot with
          | any hc =>
            cases hzero with
            | @concat _ _ _ rest hz _ =>
              cases hz
              exact .inr ⟨pre, _, rest ++ post, by simp, hc⟩
  · rintro (h | ⟨pre, c, post, hl, hc⟩)
    · obtain ⟨pre, post, hl⟩ := List.append_of_mem h
      exact ⟨pre, ['5'], post, by rw [hl]; simp,
        .altLeft (by simpa using Regex.Matches.concat (.char '5') Regex.Matches.starNil)⟩
    · refine ⟨pre, ['6', c, '0'], post, by rw [hl]; simp, .altRight ?_⟩
      simpa using Regex.Matches.concat (.char '6')
        (Regex.Matches.concat (.any hc) (Regex.Matches.concat (.char '0') Regex.Matches.starNil))

inductive CheckItem where
  | checkDatabaseConnection
  | checkDatabaseVersionSupported
  | checkAccountPermission
  | checkIfDatabaseSupportCdc
  | checkIfStructExisted
  | checkIfTableStructSupported
  deriving DecidableEq, Repr

/-- What `CheckResult::build_with_err` is given: the item, `is_source`, and the check error. -/
structure CheckResult where
  checkItem : CheckItem
  isSource : Bool
  error : Option Error

inductive Bson where
  | double (value : Float)
  | string (value : String)
  | other

def Bson.asF64 : Bson → Option Float
  | .double value => some value
  | _ => none

def Bson.asStr : Bson → Option String
  | .string value => some value
  | _ => none

/-- A BSON document, read by key as `Document::get` reads it. -/
abbrev Document := String → Option Bson

/-- The fields of `MongoPrechecker` the checks read, with what its `MongoFetcher` (not under src/)
answers. -/
structure MongoPrechecker where
  isSource : Bool
  buildConnection : Except Error Unit
  fetchVersion : Except Error String
  getRandomDb : Except Error String
  executeForDb : String → String → Except Error Document
  filterDb : String → Bool

namespace MongoPrechecker

variable (p : MongoPrechecker)

def checkBuildConnection : Except Error CheckResult := do
  p.buildConnection
  pure ⟨.checkDatabaseConnection, p.isSource, none⟩

/-- `check_database_version`, with `isMatch` the `regex` crate's `is_match`. -/
def checkDatabaseVersion (isMatch : Regex → String → Bool) : Except Error CheckResult := do
  let version ← p.fetchVersion
  let checkError := if !isMatch mongoSupportedVersionRegex version then
      some (Error.preCheckError ("mongo version:[" ++ version ++ "] is invalid."))
    else none
  pure ⟨.checkDatabaseVersionSupported, p.isSource, checkError⟩

def checkPermission : Except Error CheckResult := .ok ⟨.checkAccountPermission, p.isSource, none⟩

def checkCdcSupported : Except Error CheckResult :=
  if !p.isSource then .ok ⟨.checkIfDatabaseSupportCdc, p.isSource, none⟩
  else do
    let randomDb ← p.getRandomDb
    let rsStatus ← p.executeForDb randomDb "hello"
    let ok := decide ((((rsStatus "ok").bind Bson.asF64).getD 0.0) ≥ 1.0)
    let primary := ((rsStatus "primary").bind Bson.asStr).getD ""
    let me := ((rsStatus "me").bind Bson.asStr).getD ""
    let errMsg :=
      if !ok then "fetching mongodb instance status with \x27db.hello()\x27 failed."
      else if primary.isEmpty || me.isEmpty then "mongodb is not a replicaSet architecture."
      else if primary != me then "the mongodb instance is not a master."
      else ""
    let checkError := if !errMsg.isEmpty then some (Error.preCheckError errMsg) else none
    pure ⟨.checkIfDatabaseSupportCdc, p.isSource, checkError⟩

def checkStructExistedOrNot : Except Error CheckResult :=
  .ok ⟨.checkIfStructExisted, p.isSource, none⟩

/-- The loop of `check_table_structs` over `invalid_dbs`, up to its `break`. -/
def invalidDbsError : List String → Option Error
  | [] => none
  | db :: dbs =>
    if !p.filterDb db then
      some (.preCheckError
        "database \x27admin\x27 and \x27local\x27 are not supported as source and target.")
    else invalidDbsError dbs

def checkTableStructs : Except Error CheckResult :=
  .ok ⟨.checkIfTableStructSupported, p.isSource, p.invalidDbsError ["admin", "local"]⟩

theorem check_database_version_accepts_unanchored_match (isMatch : Regex → String → Bool)
    (hengine : ∀ s, isMatch mongoSupportedVersionRegex s = true ↔ mongoSupportedVersionRegex.IsMatch s)
    {version : String} (hv : p.fetchVersion = .ok version) :
    p.checkDatabaseVersion isMatch = .ok ⟨.checkDatabaseVersionSupported, p.isSource,
      if HasSupportedMark version.toList then none
      else some (.preCheckError ("mongo version:[" ++ version ++ "] is invalid."))⟩ := by
  have hm : isMatch mongoSupportedVersionRegex version = decide (HasSupportedMark version.toList) :=
    Bool.eq_iff_iff.mpr ((hengine version).trans
      ((isMatch_mongoSupportedVersionRegex_iff version).trans decide_eq_true_iff.symm))
  simp only [checkDatabaseVersion, hv, ok_bind, hm]
  by_cases h : HasSupportedMark version.toList <;> simp [h, pure, Except.pure]

end MongoPrechecker

theorem check_database_version_accepts_four_four_fifteen :
    let p : MongoPrechecker := ⟨true, .ok (), .ok "4.4.15", .ok "db1", fun _ _ => .ok fun _ => none,
      fun _ => false⟩
    p.checkDatabaseVersion (fun _ s => supportedMark s.toList) =
      .ok ⟨.checkDatabaseVersionSupported, true,
        if HasSupportedMark "4.4.15".toList then none
        else some (.preCheckError ("mongo version:[" ++ "4.4.15" ++ "] is invalid."))⟩ ∧
      HasSupportedMark "4.4.15".toList := by
  intro p
  exact ⟨p.check_database_version_accepts_unanchored_match _
    (fun s => (supportedMark_iff _).trans (isMatch_mongoSupportedVersionRegex_iff s).symm) rfl,
    by decide⟩

end CubetranCore.Precheck
