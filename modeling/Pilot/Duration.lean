import Pilot.RouteRule

/-! Durations in `model/validation.go`: `ValidateDuration` and the checks built on it. A
`google.protobuf.Duration` reaches Go's `time.Duration`, nanoseconds in an `int64`, through
`ptypes.Duration`, whose wrapping product is checked for overflow after the fact. -/

namespace Pilot

/-- `google.protobuf.Duration`: `int64` seconds and `int32` nanoseconds. -/
structure ProtoDuration where
  seconds : BitVec 64
  nanos : BitVec 32
  deriving DecidableEq, Repr

def ProtoDuration.totalNanos (d : ProtoDuration) : Int :=
  d.seconds.toInt * 1000000000 + d.nanos.toInt

/-- `maxSeconds` of `ptypes`: ten thousand years; `minSeconds` is its negation. -/
def maxSeconds : Int := 315576000000

/-- The errors of `ptypes.Duration`, with the message each carries. -/
inductive DurationError where
  | nilDuration
  | secondsOutOfRange (d : ProtoDuration)
  | nanosOutOfRange (d : ProtoDuration)
  | differentSigns (d : ProtoDuration)
  | outOfRange (d : ProtoDuration)
  deriving DecidableEq, Repr

/-- `%v` of a `*durpb.Duration`: its compact text format, which leaves out zero fields. -/
def protoText (d : ProtoDuration) : String :=
  (if d.seconds.toInt = 0 then "" else "seconds:" ++ toString d.seconds.toInt ++ " ") ++
  (if d.nanos.toInt = 0 then "" else "nanos:" ++ toString d.nanos.toInt ++ " ")

def DurationError.message : DurationError → String
  | .nilDuration => "duration: nil Duration"
  | .secondsOutOfRange d => "duration: " ++ protoText d ++ ": seconds out of range"
  | .nanosOutOfRange d => "duration: " ++ protoText d ++ ": nanos out of range"
  | .differentSigns d => "duration: " ++ protoText d ++ ": seconds and nanos have different signs"
  | .outOfRange d => "duration: " ++ protoText d ++ " is out of range for time.Duration"

/-- `validateDuration` of `ptypes`: the range of `duration.proto`. A nil pointer is `none`. -/
def validateProtoDuration : Option ProtoDuration → Except DurationError ProtoDuration
  | none => .error .nilDuration
  | some d =>
    if d.seconds.toInt < -maxSeconds ∨ d.seconds.toInt > maxSeconds then
      .error (.secondsOutOfRange d)
    else if d.nanos.toInt ≤ -1000000000 ∨ d.nanos.toInt ≥ 1000000000 then
      .error (.nanosOutOfRange d)
    else if (d.seconds.toInt < 0 ∧ d.nanos.toInt > 0) ∨ (d.seconds.toInt > 0 ∧ d.nanos.toInt < 0)
    then .error (.differentSigns d)
    else .ok d

/-- `ptypes.Duration`: `time.Duration(p.Seconds) * 1e9` wraps, and `int64(d/1e9) != p.Seconds`
detects it; adding the nanoseconds wraps too, detected by a change of sign. -/
def ptypesDuration (p : Option ProtoDuration) : Except DurationError Int :=
  match validateProtoDuration p with
  | .error err => .error err
  | .ok d =>
    let dur := goInt (d.seconds.toInt * 1000000000)
    if (dur.tdiv 1000000000) ≠ d.seconds.toInt then .error (.outOfRange d)
    else if d.nanos.toInt = 0 then .ok dur
    else
      let dur' := goInt (dur + d.nanos.toInt)
      if decide (dur' < 0) != decide (d.nanos.toInt < 0) then .error (.outOfRange d) else .ok dur'

def durationValue (p : Option ProtoDuration) : Int :=
  match ptypesDuration p with
  | .ok v => v
  | .error _ => 0

/-- The durations `duration.proto` allows. -/
def WellFormedDuration (d : ProtoDuration) : Prop :=
  -maxSeconds ≤ d.seconds.toInt ∧ d.seconds.toInt ≤ maxSeconds ∧
    -1000000000 < d.nanos.toInt ∧ d.nanos.toInt < 1000000000 ∧
    ¬(d.seconds.toInt < 0 ∧ 0 < d.nanos.toInt) ∧ ¬(0 < d.seconds.toInt ∧ d.nanos.toInt < 0)

/-! ### Go's `int64` arithmetic -/

theorem goInt_eq_emod (x : Int) : goInt x = (x + 2 ^ 63) % 2 ^ 64 - 2 ^ 63 := by
  unfold goInt Int.bmod
  push_cast
  split <;> omega

theorem tdiv_eq_of_pos (x : Int) {c : Int} (hc : 0 < c) :
    x.tdiv c = if 0 ≤ x then x / c else -((-x) / c) := by
  split
  · exact Int.tdiv_eq_ediv ‹_› hc.le
  · rw [← Int.tdiv_eq_ediv (by omega) hc.le, Int.neg_tdiv, Int.neg_neg]

theorem goInt_mul_tdiv_eq_iff (s : Int) :
    (goInt (s * 1000000000)).tdiv 1000000000 = s ↔
      -2 ^ 63 ≤ s * 1000000000 ∧ s * 1000000000 < 2 ^ 63 := by
  rw [goInt_eq_emod, tdiv_eq_of_pos _ (by decide)]
  split <;> omega

theorem goInt_add_sign_eq_iff {p n : Int} (hp1 : -2 ^ 63 ≤ p) (hp2 : p < 2 ^ 63)
    (hn1 : -1000000000 < n) (hn2 : n < 1000000000) (hn : n ≠ 0)
    (hs1 : ¬(p < 0 ∧ 0 < n)) (hs2 : ¬(0 < p ∧ n < 0)) :
    (decide (goInt (p + n) < 0) != decide (n < 0)) = false ↔ -2 ^ 63 ≤ p + n ∧ p + n < 2 ^ 63 := by
  rw [goInt_eq_emod, bne_eq_false_iff_eq, decide_eq_decide]
  omega

theorem validateProtoDuration_of_wellFormed {d : ProtoDuration} (hd : WellFormedDuration d) :
    validateProtoDuration (some d) = .ok d := by
  unfold WellFormedDuration at hd
  simp only [validateProtoDuration]
  rw [if_neg (by omega), if_neg (by omega), if_neg (by omega)]

theorem validateProtoDuration_eq_ok_iff {p : Option ProtoDuration} {d : ProtoDuration} :
    validateProtoDuration p = .ok d ↔ p = some d ∧ WellFormedDuration d := by
  constructor
  · intro h
    cases p with
    | none => cases h
    | some d' =>
      simp only [validateProtoDuration] at h
      split_ifs at h with h1 h2 h3
      cases h
      exact ⟨rfl, by unfold WellFormedDuration; omega⟩
  · rintro ⟨rfl, hd⟩
    exact validateProtoDuration_of_wellFormed hd

theorem ptypesDuration_of_wellFormed {d : ProtoDuration} (hd : WellFormedDuration d) :
    ptypesDuration (some d) = if -2 ^ 63 ≤ d.totalNanos ∧ d.totalNanos < 2 ^ 63
      then .ok d.totalNanos else .error (.outOfRange d) := by
  have hd' := hd
  unfold WellFormedDuration at hd'
  simp only [ptypesDuration, validateProtoDuration_of_wellFormed hd, ProtoDuration.totalNanos]
  by_cases hm : -2 ^ 63 ≤ d.seconds.toInt * 1000000000 ∧ d.seconds.toInt * 1000000000 < 2 ^ 63
  · rw [if_neg (not_not.mpr ((goInt_mul_tdiv_eq_iff _).mpr hm)), goInt_of_mem hm.1 hm.2]
    by_cases hn : d.nanos.toInt = 0
    · rw [if_pos hn, if_pos (by omega), hn, Int.add_zero]
    · rw [if_neg hn]
      by_cases hr : -2 ^ 63 ≤ d.seconds.toInt * 1000000000 + d.nanos.toInt ∧
          d.seconds.toInt * 1000000000 + d.nanos.toInt < 2 ^ 63
      · have hc := (goInt_add_sign_eq_iff hm.1 hm.2 (by omega) (by omega) hn (by omega) (by omega)).mpr hr
        rw [if_neg (by simp [hc]), if_pos hr, goInt_of_mem hr.1 hr.2]
      · have hc : ¬(decide (goInt (d.seconds.toInt * 1000000000 + d.nanos.toInt) < 0) !=
            decide (d.nanos.toInt < 0)) = false := fun h =>
          hr ((goInt_add_sign_eq_iff hm.1 hm.2 (by omega) (by omega) hn (by omega) (by omega)).mp h)
        rw [if_pos (by simpa using hc), if_neg hr]
  · rw [if_pos (fun h => hm ((goInt_mul_tdiv_eq_iff _).mp h)), if_neg (by omega)]

theorem ptypesDuration_eq_ok_iff (p : Option ProtoDuration) (v : Int) :
    ptypesDuration p = .ok v ↔ ∃ d, p = some d ∧ WellFormedDuration d ∧ v = d.totalNanos ∧
      -2 ^ 63 ≤ v ∧ v < 2 ^ 63 := by
  constructor
  · intro h
    obtain ⟨d, hvd⟩ : ∃ d, validateProtoDuration p = .ok d := by
      cases hv : validateProtoDuration p with
      | error err => simp [ptypesDuration, hv] at h
      | ok d => exact ⟨d, rfl⟩
    obtain ⟨rfl, hd⟩ := validateProtoDuration_eq_ok_iff.mp hvd
    rw [ptypesDuration_of_wellFormed hd] at h
    split_ifs at h with hr
    cases h
    exact ⟨d, rfl, hd, rfl, hr⟩
  · rintro ⟨d, rfl, hd, rfl, hr⟩
    rw [ptypesDuration_of_wellFormed hd, if_pos hr]

/-! ### `ValidateDuration` -/

/-- The loop of `fmtFrac` in Go's `time`: the last `prec` digits of `v`, least significant first,
printed once a nonzero one is met, then the point if anything was printed. -/
def fmtFracLoop : Nat → Nat → Bool → List Char → List Char × Nat
  | 0, v, print, buf => (if print then '.' :: buf else buf, v)
  | prec + 1, v, print, buf =>
    let digit := v % 10
    let print := print || digit != 0
    fmtFracLoop prec (v / 10) print (if print then Char.ofNat (digit + '0'.toNat) :: buf else buf)

/-- `fmtFrac` of Go's `time`: the fraction `v / 10^prec` without trailing zeros, and the integer
part. -/
def fmtFrac (v prec : Nat) : List Char × Nat :=
  fmtFracLoop prec v false []

/-- `time.Duration.String`: `h`, `m` and `s` from one second up, a single smaller unit below. -/
def durationString (d : Int) : String :=
  let u := d.natAbs
  let sign : List Char := if d < 0 then ['-'] else []
  if u = 0 then "0s"
  else if u < 1000000000 then
    let (unit, prec) : List Char × Nat :=
      if u < 1000 then (['n'], 0) else if u < 1000000 then (['µ'], 3) else (['m'], 6)
    let (frac, w) := fmtFrac u prec
    String.mk (sign ++ (toString w).toList ++ frac ++ unit ++ ['s'])
  else
    let (frac, secs) := fmtFrac u 9
    let mins := secs / 60
    let hours := mins / 60
    String.mk (sign ++
      (if mins = 0 then [] else
        (if hours = 0 then [] else (toString hours).toList ++ ['h']) ++
          (toString (mins % 60)).toList ++ ['m']) ++
      (toString (secs % 60)).toList ++ frac ++ ['s'])

example : durationString 600000000000 = "10m0s" ∧ durationString 3600000000000 = "1h0m0s" ∧
    durationString 1500000 = "1.5ms" ∧ durationString (-1000000000) = "-1s" := by
  decide

def validateDuration (pd : Option ProtoDuration) : Option String :=
  match ptypesDuration pd with
  | .error err => some err.message
  | .ok dur =>
    if dur < 1000000 then some "duration must be greater than 1ms"
    else if dur.tmod 1000000 ≠ 0 then some "Istio only supports durations to ms precision"
    else none

theorem validateDuration_of_wellFormed {d : ProtoDuration} (hd : WellFormedDuration d)
    (h1 : 1000000 ≤ d.totalNanos) (h2 : d.totalNanos < 2 ^ 63) (h3 : d.totalNanos % 1000000 = 0) :
    validateDuration (some d) = none := by
  have hp := (ptypesDuration_eq_ok_iff _ _).mpr ⟨d, rfl, hd, rfl, by omega, h2⟩
  simp only [validateDuration, hp, Int.tmod_eq_emod (by omega : 0 ≤ d.totalNanos)
    (by decide : (0 : Int) ≤ 1000000), h3]
  simp [show ¬d.totalNanos < 1000000 by omega]

theorem durationValue_of_validateDuration {pd : Option ProtoDuration}
    (h : validateDuration pd = none) : ∃ d, pd = some d ∧ WellFormedDuration d ∧
      durationValue pd = d.totalNanos ∧ 1000000 ≤ d.totalNanos ∧ d.totalNanos < 2 ^ 63 ∧
      d.totalNanos % 1000000 = 0 := by
  unfold validateDuration at h
  split at h
  · cases h
  · next dur hp =>
    obtain ⟨d, rfl, hd, rfl, -, hr⟩ := (ptypesDuration_eq_ok_iff _ _).mp hp
    split_ifs at h with h1 h2
    rw [Int.tmod_eq_emod (by omega) (by decide)] at h2
    exact ⟨d, rfl, hd, by simp [durationValue, hp], by omega, hr, by omega⟩

/-- `ValidateDuration` accepts exactly the durations `duration.proto` allows whose length fits
`time.Duration`, is at least a millisecond and is a whole number of milliseconds. -/
theorem validateDuration_eq_none_iff (pd : Option ProtoDuration) :
    validateDuration pd = none ↔ ∃ d, pd = some d ∧ WellFormedDuration d ∧
      1000000 ≤ d.totalNanos ∧ d.totalNanos < 2 ^ 63 ∧ d.totalNanos % 1000000 = 0 := by
  constructor
  · intro h
    obtain ⟨d, rfl, hd, -, h1, h2, h3⟩ := durationValue_of_validateDuration h
    exact ⟨d, rfl, hd, h1, h2, h3⟩
  · rintro ⟨d, rfl, hd, h1, h2, h3⟩
    exact validateDuration_of_wellFormed hd h1 h2 h3

/-! ### Ranges -/

/-- `ValidateDurationRange`. The message asks for `>min` and `<max`; the check lets both ends
through. -/
def validateDurationRange (dur min max : Int) : Option String :=
  if dur > max ∨ dur < min then
    some ("time " ++ durationString dur ++ " must be >" ++ durationString min ++ " and <" ++
      durationString max)
  else none

theorem validateDurationRange_eq_none_iff (dur min max : Int) :
    validateDurationRange dur min max = none ↔ min ≤ dur ∧ dur ≤ max := by
  simp only [validateDurationRange, ite_eq_right_iff, reduceCtorEq, imp_false]
  omega

def discoveryRefreshDelayMin : Int := 1000000000
def discoveryRefreshDelayMax : Int := 60000000000 * 10

def connectTimeoutMin : Int := 1000000
def connectTimeoutMax : Int := 1000000000 * 30

def drainTimeMax : Int := 3600000000000
def parentShutdownTimeMax : Int := 3600000000000

def validateDurationIn (min max : Int) (pd : Option ProtoDuration) : Option String :=
  match validateDuration pd with
  | some err => some err
  | none => validateDurationRange (durationValue pd) min max

def validateRefreshDelay (refresh : Option ProtoDuration) : Option String :=
  validateDurationIn discoveryRefreshDelayMin discoveryRefreshDelayMax refresh

def validateConnectTimeout (timeout : Option ProtoDuration) : Option String :=
  validateDurationIn connectTimeoutMin connectTimeoutMax timeout

theorem validateDurationIn_eq_none_iff {min max : Int} (hmin : 1000000 ≤ min)
    (hmax : max < 2 ^ 63) (pd : Option ProtoDuration) :
    validateDurationIn min max pd = none ↔ ∃ d, pd = some d ∧ WellFormedDuration d ∧
      min ≤ d.totalNanos ∧ d.totalNanos ≤ max ∧ d.totalNanos % 1000000 = 0 := by
  unfold validateDurationIn
  split
  · next err h =>
    simp only [reduceCtorEq, false_iff, not_exists, not_and]
    rintro d rfl hd h1 h2 h3
    rw [validateDuration_of_wellFormed hd (by omega) (by omega) h3] at h
    cases h
  · next h =>
    obtain ⟨d, rfl, hd, hv, h1, h2, h3⟩ := durationValue_of_validateDuration h
    rw [hv, validateDurationRange_eq_none_iff]
    constructor
    · rintro ⟨h4, h5⟩
      exact ⟨d, rfl, hd, h4, h5, h3⟩
    · rintro ⟨_, he, -, h4, h5, -⟩
      cases he
      exact ⟨h4, h5⟩

/-! ### `ValidateParentAndDrain` -/

/-- `ValidateParentAndDrain`: the two durations' own errors, and only when there are none, the
checks of their values against each other and against an hour. -/
def validateParentAndDrain (drainTime parentShutdown : Option ProtoDuration) : List String :=
  let errs := prefixed "invalid drain duration:" (validateDuration drainTime).toList ++
    prefixed "invalid parent shutdown duration:" (validateDuration parentShutdown).toList
  if errs ≠ [] then errs else
  let drainDuration := durationValue drainTime
  let parentShutdownDuration := durationValue parentShutdown
  (if drainDuration.tmod 1000000000 ≠ 0 then
    ["Istio drain time only supports durations to seconds precision"] else []) ++
  (if parentShutdownDuration.tmod 1000000000 ≠ 0 then
    ["Istio parent shutdown time only supports durations to seconds precision"] else []) ++
  (if parentShutdownDuration ≤ drainDuration then
    ["Istio parent shutdown time " ++ durationString parentShutdownDuration ++
      " must be greater than drain time " ++ durationString drainDuration] else []) ++
  (if drainDuration > drainTimeMax then
    ["Istio drain time " ++ durationString drainDuration ++ " must be <" ++
      durationString drainTimeMax] else []) ++
  (if parentShutdownDuration > parentShutdownTimeMax then
    ["Istio parent shutdown time " ++ durationString parentShutdownDuration ++ " must be <" ++
      durationString parentShutdownTimeMax] else [])

theorem validateParentAndDrain_eq_nil_iff (drainTime parentShutdown : Option ProtoDuration) :
    validateParentAndDrain drainTime parentShutdown = [] ↔
      ∃ dr pa, drainTime = some dr ∧ parentShutdown = some pa ∧
        WellFormedDuration dr ∧ WellFormedDuration pa ∧ 0 < dr.totalNanos ∧
        dr.totalNanos % 1000000000 = 0 ∧ pa.totalNanos % 1000000000 = 0 ∧
        dr.totalNanos < pa.totalNanos ∧ pa.totalNanos ≤ parentShutdownTimeMax := by
  unfold validateParentAndDrain
  dsimp only
  split
  · next herr =>
    simp only [herr, false_iff, not_exists, not_and]
    rintro dr pa rfl rfl hdr hpa h0 h1 h2 h3 h4
    refine herr ?_
    rw [List.append_eq_nil, prefixed_eq_nil, prefixed_eq_nil, option_toList_eq_nil,
      option_toList_eq_nil]
    unfold parentShutdownTimeMax at h4
    exact ⟨validateDuration_of_wellFormed hdr (by omega) (by omega) (by omega),
      validateDuration_of_wellFormed hpa (by omega) (by omega) (by omega)⟩
  · next herr =>
    simp only [not_not, List.append_eq_nil, prefixed_eq_nil, option_toList_eq_nil] at herr
    obtain ⟨dr, rfl, hdr, hv, h1, h2, h3⟩ := durationValue_of_validateDuration herr.1
    obtain ⟨pa, rfl, hpa, hv', h1', h2', h3'⟩ := durationValue_of_validateDuration herr.2
    rw [hv, hv', Int.tmod_eq_emod (by omega) (by decide), Int.tmod_eq_emod (by omega) (by decide)]
    simp only [List.append_eq_nil, ite_eq_right_iff, List.cons_ne_nil, imp_false, not_not,
      not_le, not_lt, drainTimeMax, parentShutdownTimeMax, and_assoc]
    constructor
    · rintro ⟨h4, h5, h6, -, h8⟩
      exact ⟨dr, pa, rfl, rfl, hdr, hpa, by omega, h4, h5, h6, h8⟩
    · rintro ⟨_, _, he, he', -, -, -, h4, h5, h6, h8⟩
      cases he
      cases he'
      exact ⟨h4, h5, h6, by omega, h8⟩

end Pilot
