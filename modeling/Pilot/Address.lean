import Pilot.Descriptor
import Mathlib.Data.List.Basic
import Mathlib.Algebra.Group.Int

/-! The address validators of `model/validation.go`: `ValidateFQDN`, `ValidateIPv4Address`,
`ValidateCIDRBlock`, `ValidateIPv4Subnet` and `ValidateProxyAddress`, over Go's
`strings.Split` and `strconv.Atoi`. -/

namespace Pilot

/-- Go's `strings.Split(s, sep)` for a one-byte separator. -/
def goSplit (s : String) (sep : Char) : List String :=
  (s.toList.splitOn sep).map String.mk

theorem splitOnP_part {α : Type} {P : α → Bool} {l p : List α} (h : p ∈ l.splitOnP P) :
    ∀ x ∈ p, P x = false := by
  induction l generalizing p with
  | nil => simp_all [List.splitOnP_nil]
  | cons y ys ih =>
    rw [List.splitOnP_cons] at h
    split at h
    · rcases List.mem_cons.mp h with rfl | h
      · simp
      · exact ih h
    · obtain ⟨r, rs, hr⟩ := List.exists_cons_of_ne_nil (List.splitOnP_ne_nil P ys)
      rw [hr, List.modifyHead_cons] at h
      rcases List.mem_cons.mp h with rfl | h
      · rintro x (_ | ⟨_, hx⟩)
        · simpa using ‹¬P y = true›
        · exact ih (hr ▸ List.mem_cons_self _ _) x hx
      · exact ih (hr ▸ List.mem_cons_of_mem _ h)

theorem goSplit_eq_iff {s : String} {sep : Char} {parts : List (List Char)} (hne : parts ≠ []) :
    goSplit s sep = parts.map String.mk ↔
      s.toList = [sep].intercalate parts ∧ ∀ p ∈ parts, sep ∉ p := by
  rw [goSplit, (List.map_injective_iff.mpr fun _ _ h => congrArg String.data h).eq_iff]
  constructor
  · rintro rfl
    exact ⟨(List.intercalate_splitOn _ _).symm, fun p hp hm => by
      simpa using splitOnP_part hp sep hm⟩
  · rintro ⟨h, hsep⟩
    rw [h, List.splitOn_intercalate _ _ hsep hne]

/-- The value of a string of decimal digits. -/
def digitsValue (ds : List Char) : Nat :=
  ds.foldl (fun n c => 10 * n + (c.toNat - '0'.toNat)) 0

/-- The sign `strconv.ParseInt` takes off the front: whether it is `-`, and the rest. -/
def takeSign : List Char → Bool × List Char
  | '+' :: ds => (false, ds)
  | '-' :: ds => (true, ds)
  | ds => (false, ds)

theorem takeSign_cases (l : List Char) :
    takeSign l = (false, l) ∨ (∃ ds, l = '+' :: ds ∧ takeSign l = (false, ds)) ∨
      (∃ ds, l = '-' :: ds ∧ takeSign l = (true, ds)) := by
  unfold takeSign
  split
  · exact .inr (.inl ⟨_, rfl, rfl⟩)
  · exact .inr (.inr ⟨_, rfl, rfl⟩)
  · exact .inl rfl

theorem takeSign_of_isDigit {ds : List Char} (hd : ∀ c ∈ ds, c.isDigit) :
    takeSign ds = (false, ds) := by
  rcases takeSign_cases ds with h | ⟨_, rfl, -⟩ | ⟨_, rfl, -⟩
  · exact h
  all_goals exact absurd (hd _ (List.mem_cons_self _ _)) (by decide)

/-- One or more decimal digits, after an optional `+`, or after `-` for the negated value. -/
def SignedDigits (l : List Char) (v : Int) : Prop :=
  ∃ ds : List Char, ds ≠ [] ∧ (∀ c ∈ ds, c.isDigit) ∧
    ((l = ds ∨ l = '+' :: ds) ∧ v = digitsValue ds ∨ l = '-' :: ds ∧ v = -(digitsValue ds : Int))

theorem signedDigits_iff {l ds : List Char} {neg : Bool} (h : takeSign l = (neg, ds)) (v : Int) :
    SignedDigits l v ↔ ds ≠ [] ∧ (∀ c ∈ ds, c.isDigit) ∧
      v = if neg then -(digitsValue ds : Int) else digitsValue ds := by
  constructor
  · rintro ⟨ds', hne, hd, ⟨rfl | rfl, rfl⟩ | ⟨rfl, rfl⟩⟩ <;>
      simp only [takeSign_of_isDigit hd, takeSign.eq_1, takeSign.eq_2, Prod.mk.injEq] at h <;>
      obtain ⟨rfl, rfl⟩ := h <;> exact ⟨hne, hd, rfl⟩
  · rintro ⟨hne, hd, rfl⟩
    rcases takeSign_cases l with h' | ⟨_, rfl, h'⟩ | ⟨_, rfl, h'⟩ <;>
      rw [h, Prod.mk.injEq] at h' <;> obtain ⟨rfl, rfl⟩ := h'
    exacts [⟨_, hne, hd, .inl ⟨.inl rfl, rfl⟩⟩, ⟨_, hne, hd, .inl ⟨.inr rfl, rfl⟩⟩,
      ⟨_, hne, hd, .inr ⟨rfl, rfl⟩⟩]

theorem SignedDigits.not_mem {l : List Char} {v : Int} (h : SignedDigits l v) {c : Char}
    (hd : c.isDigit = false) (hp : c ≠ '+') (hm : c ≠ '-') : c ∉ l := by
  have hdigits : ∀ ds : List Char, (∀ c ∈ ds, c.isDigit) → c ∉ ds := fun ds hds hc => by
    simpa [hd] using hds c hc
  obtain ⟨ds, -, hds, ⟨rfl | rfl, -⟩ | ⟨rfl, -⟩⟩ := h <;> simp [hdigits _ hds, hp, hm]

/-- The text of a `*strconv.NumError` of `Atoi`. -/
def numError (s err : String) : String :=
  "strconv.Atoi: parsing " ++ goQuote s ++ ": " ++ err

/-- `strconv.Atoi` on a 64-bit platform: an optional sign, then one or more decimal digits
whose value fits an `int`. -/
def atoi (s : String) : Except String Int :=
  let (neg, ds) := takeSign s.toList
  if ds.isEmpty || !ds.all Char.isDigit then .error (numError s "invalid syntax") else
  let v : Int := if neg then -(digitsValue ds : Int) else digitsValue ds
  if -2 ^ 63 ≤ v ∧ v < 2 ^ 63 then .ok v else .error (numError s "value out of range")

theorem atoi_eq_ok_of_takeSign {s : String} {neg : Bool} {ds : List Char}
    (h : takeSign s.toList = (neg, ds)) (v : Int) :
    atoi s = .ok v ↔ ds ≠ [] ∧ (∀ c ∈ ds, c.isDigit) ∧ -2 ^ 63 ≤ v ∧ v < 2 ^ 63 ∧
      v = if neg then -(digitsValue ds : Int) else digitsValue ds := by
  unfold atoi
  rw [h]
  dsimp only
  generalize (if neg then -(digitsValue ds : Int) else digitsValue ds) = w
  by_cases hd : ds ≠ [] ∧ ∀ c ∈ ds, c.isDigit
  · have hb : (ds.isEmpty || !ds.all Char.isDigit) = false := by
      simpa [List.isEmpty_iff, List.all_eq_true] using hd
    rw [if_neg (by simp [hb])]
    split_ifs with hr
    · simp only [Except.ok.injEq]
      constructor
      · rintro rfl; exact ⟨hd.1, hd.2, hr.1, hr.2, rfl⟩
      · rintro ⟨-, -, -, -, rfl⟩; rfl
    · simp only [reduceCtorEq, false_iff]
      rintro ⟨-, -, h1, h2, rfl⟩
      exact hr ⟨h1, h2⟩
  · have hb : (ds.isEmpty || !ds.all Char.isDigit) = true := by
      simpa [List.isEmpty_iff, List.all_eq_true, or_iff_not_imp_left] using hd
    rw [if_pos hb]
    simp only [reduceCtorEq, false_iff]
    exact fun h' => hd ⟨h'.1, h'.2.1⟩

theorem atoi_eq_ok_iff (s : String) (v : Int) :
    atoi s = .ok v ↔ SignedDigits s.toList v ∧ -2 ^ 63 ≤ v ∧ v < 2 ^ 63 := by
  rcases h : takeSign s.toList with ⟨neg, ds⟩
  rw [atoi_eq_ok_of_takeSign h, signedDigits_iff h]
  tauto

def atoiIn (lo hi : Int) (s : String) : Bool :=
  match atoi s with
  | .ok n => decide (lo ≤ n ∧ n ≤ hi)
  | .error _ => false

theorem atoi_eq_ok_in_iff {lo hi : Int} (hlo : -2 ^ 63 ≤ lo) (hhi : hi < 2 ^ 63) (s : String)
    (v : Int) : (atoi s = .ok v ∧ lo ≤ v ∧ v ≤ hi) ↔ SignedDigits s.toList v ∧ lo ≤ v ∧ v ≤ hi := by
  rw [atoi_eq_ok_iff]
  exact ⟨fun ⟨⟨hv, _⟩, hr⟩ => ⟨hv, hr⟩, fun ⟨hv, h1, h2⟩ => ⟨⟨hv, by omega, by omega⟩, h1, h2⟩⟩

theorem atoiIn_eq_true_iff {lo hi : Int} (hlo : -2 ^ 63 ≤ lo) (hhi : hi < 2 ^ 63) (s : String) :
    atoiIn lo hi s = true ↔ ∃ v, SignedDigits s.toList v ∧ lo ≤ v ∧ v ≤ hi := by
  have h : atoiIn lo hi s = true ↔ ∃ v, atoi s = .ok v ∧ lo ≤ v ∧ v ≤ hi := by
    unfold atoiIn
    split <;> simp_all
  exact h.trans (exists_congr (atoi_eq_ok_in_iff hlo hhi s))

def validatePort (port : Int) : Option String :=
  if 1 ≤ port ∧ port ≤ 65535 then none
  else some ("port number " ++ toString port ++ " must be in the range 1..65535")

theorem validatePort_eq_none_iff (port : Int) :
    validatePort port = none ↔ 1 ≤ port ∧ port ≤ 65535 := by
  simp [validatePort]

/-- `ValidateFQDN`: the first error, if any. Go's `len` counts bytes. -/
def validateFQDN (fqdn : String) : Option String :=
  if fqdn.utf8ByteSize > 255 then some ("domain name " ++ goQuote fqdn ++ " too long (max 255)")
  else if fqdn.utf8ByteSize = 0 then some "empty domain name not allowed"
  else match (goSplit fqdn '.').find? (fun label => !isDNS1123Label label) with
    | some label =>
      some ("domain name " ++ goQuote fqdn ++ " invalid (label " ++ goQuote label ++ " invalid)")
    | none => none

def validateCIDRBlock (cidr : String) : Option String :=
  if atoiIn 1 32 cidr then none else some ("/" ++ cidr ++ " is not a valid CIDR block")

def validateIPv4Address (addr : String) : Option String :=
  let octets := goSplit addr '.'
  if octets.length = 4 ∧ octets.all (atoiIn 0 255) then none
  else some (goQuote addr ++ " is not a valid IP address")

theorem option_toList_eq_nil {β : Type} {o : Option β} : o.toList = [] ↔ o = none := by
  cases o <;> simp

/-- Four parts joined by dots, each an optional sign and decimal digits of value `0..255`: what
`ValidateIPv4Address` reads through `strconv.Atoi`. -/
def IPv4Text (l : List Char) : Prop :=
  ∃ a b c d : List Char, l = a ++ '.' :: (b ++ '.' :: (c ++ '.' :: d)) ∧
    ∀ o ∈ [a, b, c, d], ∃ v, SignedDigits o v ∧ 0 ≤ v ∧ v ≤ 255

theorem IPv4Text.slash_not_mem {l : List Char} (h : IPv4Text l) : '/' ∉ l := by
  obtain ⟨a, b, c, d, rfl, ho⟩ := h
  have hn : ∀ o ∈ [a, b, c, d], '/' ∉ o := fun o hm =>
    let ⟨_, hv, _⟩ := ho o hm
    hv.not_mem (by decide) (by decide) (by decide)
  simp [hn a (by simp), hn b (by simp), hn c (by simp), hn d (by simp)]

theorem validateIPv4Address_eq_none_iff (addr : String) :
    validateIPv4Address addr = none ↔ IPv4Text addr.toList := by
  have hoct : ∀ o : List Char, ('.' ∉ o ∧ atoiIn 0 255 (String.mk o) = true) ↔
      ∃ v, SignedDigits o v ∧ 0 ≤ v ∧ v ≤ 255 := fun o => by
    rw [atoiIn_eq_true_iff (by decide) (by decide)]
    exact ⟨fun h => h.2, fun h =>
      ⟨let ⟨_, hv, _⟩ := h; hv.not_mem (by decide) (by decide) (by decide), h⟩⟩
  simp only [IPv4Text, ← hoct, validateIPv4Address, ite_eq_left_iff, reduceCtorEq, imp_false,
    not_not, List.all_eq_true]
  constructor
  · rintro ⟨hlen, hall⟩
    obtain ⟨a, b, c, d, hp⟩ : ∃ a b c d, goSplit addr '.' = [a, b, c, d].map String.mk := by
      unfold goSplit at hlen ⊢
      generalize addr.toList.splitOn '.' = parts at hlen ⊢
      rcases parts with _ | ⟨a, _ | ⟨b, _ | ⟨c, _ | ⟨d, _ | ⟨e, t⟩⟩⟩⟩⟩ <;> simp_all
    obtain ⟨haddr, hsep⟩ := (goSplit_eq_iff (List.cons_ne_nil _ _)).mp hp
    refine ⟨a, b, c, d, by simpa [List.intercalate] using haddr,
      fun o ho => ⟨hsep o ho, hall _ (hp ▸ List.mem_map_of_mem _ ho)⟩⟩
  · rintro ⟨a, b, c, d, haddr, ho⟩
    have hp := (goSplit_eq_iff (List.cons_ne_nil _ _)).mpr
      ⟨by simpa [List.intercalate] using haddr, fun o h => (ho o h).1⟩
    refine ⟨by simp [hp], fun x hx => ?_⟩
    obtain ⟨o, hmem, rfl⟩ := List.mem_map.mp (hp ▸ hx)
    exact (ho o hmem).2

def validateIPv4Subnet (subnet : String) : List String :=
  match goSplit subnet '/' with
  | [addr] => (validateIPv4Address addr).toList
  | [addr, cidr] => (validateCIDRBlock cidr).toList ++ (validateIPv4Address addr).toList
  | _ => [goQuote subnet ++ " is not valid CIDR notation"]

theorem validateIPv4Subnet_eq_nil_iff (subnet : String) :
    validateIPv4Subnet subnet = [] ↔
      ('/' ∉ subnet.toList ∧ validateIPv4Address subnet = none) ∨
      ∃ addr cidr : List Char, subnet.toList = addr ++ '/' :: cidr ∧ '/' ∉ addr ∧ '/' ∉ cidr ∧
        validateIPv4Address (String.mk addr) = none ∧ atoiIn 1 32 (String.mk cidr) = true := by
  constructor
  · intro h
    unfold validateIPv4Subnet at h
    split at h
    · next addr hp =>
      obtain ⟨hs, hsep⟩ := (@goSplit_eq_iff subnet '/' [addr.toList] (List.cons_ne_nil _ _)).mp hp
      have : subnet = addr := String.ext (by simpa [List.intercalate] using hs)
      subst this
      exact .inl ⟨hsep _ (List.mem_singleton_self _), option_toList_eq_nil.mp h⟩
    · next addr cidr hp =>
      obtain ⟨hs, hsep⟩ :=
        (@goSplit_eq_iff subnet '/' [addr.toList, cidr.toList] (List.cons_ne_nil _ _)).mp hp
      simp only [List.append_eq_nil, option_toList_eq_nil, validateCIDRBlock,
        ite_eq_left_iff, reduceCtorEq, imp_false, not_not] at h
      exact .inr ⟨addr.toList, cidr.toList, by simpa [List.intercalate] using hs,
        hsep _ (by simp), hsep _ (by simp), h.2, h.1⟩
    · simp at h
  · rintro (⟨hs, hv⟩ | ⟨addr, cidr, hs, ha, hc, hv, hcidr⟩)
    · have hp := (@goSplit_eq_iff subnet '/' [subnet.toList]
        (List.cons_ne_nil _ _)).mpr ⟨by simp [List.intercalate], by simpa using hs⟩
      simp [validateIPv4Subnet, hp, hv]
    · have hp := (@goSplit_eq_iff subnet '/' [addr, cidr] (List.cons_ne_nil _ _)).mpr
        ⟨by simpa [List.intercalate] using hs, by simp [ha, hc]⟩
      simp [validateIPv4Subnet, hp, hv, validateCIDRBlock, hcidr]

def validateSubnet (subnet : String) : List String :=
  validateIPv4Subnet subnet

theorem span_bne_eq_iff {c x : Char} {l host rest : List Char} :
    l.span (· != c) = (host, x :: rest) ↔ x = c ∧ l = host ++ c :: rest ∧ c ∉ host := by
  rw [List.span_eq_take_drop, Prod.mk.injEq]
  constructor
  · rintro ⟨htake, hdrop⟩
    have hx : x = c := by
      have h := List.head_dropWhile_not (· != c) l (by rw [hdrop]; exact List.cons_ne_nil _ _)
      simpa [hdrop] using h
    subst hx
    exact ⟨rfl, by rw [← htake, ← hdrop, List.takeWhile_append_dropWhile],
      fun hm => bne_iff_ne.mp (List.mem_takeWhile_imp (p := (· != x)) (htake ▸ hm)) rfl⟩
  · rintro ⟨rfl, rfl, hh⟩
    have hne : ∀ a ∈ host, (a != x) = true := fun a ha => bne_iff_ne.mpr fun e => hh (e ▸ ha)
    rw [List.takeWhile_append_of_pos hne, List.dropWhile_append_of_pos hne]
    simp

/-- `ValidateProxyAddress`: `strings.Index` finds the first colon. -/
def validateProxyAddress (hostAddr : String) : Option String :=
  match hostAddr.toList.span (· != ':') with
  | (_, []) => some ("\x27:\x27 separator not found in " ++ goQuote hostAddr ++
      ", host address must be of the form <DNS name>:<port> or <IP>:<port>")
  | (host, _ :: portText) =>
    match atoi (String.mk portText) with
    | .error err => some err
    | .ok port =>
      match validatePort port with
      | some err => some err
      | none =>
        if (validateFQDN (String.mk host)).isNone || (validateIPv4Address (String.mk host)).isNone
        then none
        else some (goQuote (String.mk host) ++ " is not a valid hostname or an IPv4 address")

theorem validateProxyAddress_eq_none_iff_atoi (hostAddr : String) :
    validateProxyAddress hostAddr = none ↔ ∃ host portText : List Char,
      hostAddr.toList = host ++ ':' :: portText ∧ ':' ∉ host ∧
      (∃ port, atoi (String.mk portText) = .ok port ∧ 1 ≤ port ∧ port ≤ 65535) ∧
      (validateFQDN (String.mk host) = none ∨ validateIPv4Address (String.mk host) = none) := by
  constructor
  · intro h
    unfold validateProxyAddress at h
    split at h
    · simp at h
    · next host c portText hspan =>
      obtain ⟨rfl, hs, hh⟩ := span_bne_eq_iff.mp hspan
      split at h
      · simp at h
      · next port hport =>
        split at h
        · simp at h
        · next hv =>
          refine ⟨host, portText, hs, hh, ⟨port, hport, (validatePort_eq_none_iff port).mp hv⟩, ?_⟩
          exact or_iff_not_imp_left.mpr (by simpa [Option.isNone_iff_eq_none] using h)
  · rintro ⟨host, portText, hs, hh, ⟨port, hport, h1, h2⟩, hv⟩
    rw [validateProxyAddress, span_bne_eq_iff.mpr ⟨rfl, hs, hh⟩]
    simp [hport, validatePort, h1, h2, Option.isNone_iff_eq_none, hv]

/-- `ValidateSubnet` accepts exactly an address of four parts joined by dots, alone or followed
by `/` and a prefix length, where each part is what `strconv.Atoi` reads: an optional `+` or
`-` and decimal digits, of value `0..255` for a part and `1..32` for the prefix length. -/
theorem validateSubnet_eq_nil_iff (subnet : String) :
    validateSubnet subnet = [] ↔ ∃ addr, IPv4Text addr ∧ (subnet.toList = addr ∨
      ∃ cidr v, subnet.toList = addr ++ '/' :: cidr ∧ SignedDigits cidr v ∧ 1 ≤ v ∧ v ≤ 32) := by
  rw [validateSubnet, validateIPv4Subnet_eq_nil_iff]
  constructor
  · rintro (⟨-, hv⟩ | ⟨addr, cidr, hs, -, -, hv, hc⟩)
    · exact ⟨_, (validateIPv4Address_eq_none_iff _).mp hv, .inl rfl⟩
    · obtain ⟨v, hcv, h1, h2⟩ := (atoiIn_eq_true_iff (by decide) (by decide) _).mp hc
      exact ⟨addr, (validateIPv4Address_eq_none_iff _).mp hv, .inr ⟨cidr, v, hs, hcv, h1, h2⟩⟩
  · rintro ⟨addr, ha, hs | ⟨cidr, v, hs, hcv, h1, h2⟩⟩
    · refine .inl ⟨hs ▸ ha.slash_not_mem, (validateIPv4Address_eq_none_iff _).mpr (hs ▸ ha)⟩
    · exact .inr ⟨addr, cidr, hs, ha.slash_not_mem, hcv.not_mem (by decide) (by decide) (by decide),
        (validateIPv4Address_eq_none_iff _).mpr ha,
        (atoiIn_eq_true_iff (by decide) (by decide) _).mpr ⟨v, hcv, h1, h2⟩⟩

/-- `strconv.Atoi` takes a sign, so `ValidateSubnet` accepts octets and prefix lengths written
with one, which are not strings of decimal digits. -/
theorem validateSubnet_accepts_signed_parts :
    validateSubnet "+1.2.3.4" = [] ∧ validateSubnet "-0.2.3.4" = [] ∧
      validateSubnet "1.2.3.4/+8" = [] ∧ ¬ "+1".toList.all Char.isDigit := by
  decide

/-- `ValidateProxyAddress` accepts exactly a host and a port text around the first colon, where
the port text is an optional `+` or `-` and decimal digits of value `1..65535`, and the host
passes `ValidateFQDN` or is four such parts of value `0..255` joined by dots. -/
theorem validateProxyAddress_eq_none_iff (hostAddr : String) :
    validateProxyAddress hostAddr = none ↔ ∃ host portText : List Char,
      hostAddr.toList = host ++ ':' :: portText ∧ ':' ∉ host ∧
      (∃ port, SignedDigits portText port ∧ 1 ≤ port ∧ port ≤ 65535) ∧
      (validateFQDN (String.mk host) = none ∨ IPv4Text host) := by
  rw [validateProxyAddress_eq_none_iff_atoi]
  exact exists₂_congr fun host portText => and_congr_right' (and_congr_right' (and_congr
    (exists_congr (atoi_eq_ok_in_iff (by decide) (by decide) _))
    (or_congr_right (validateIPv4Address_eq_none_iff _))))

/-- The same signs pass `ValidateProxyAddress`, in the port and in an IPv4 host that fails
`ValidateFQDN`. -/
theorem validateProxyAddress_accepts_signed_parts :
    validateProxyAddress "istio-pilot:+8080" = none ∧
      validateProxyAddress "+10.0.0.1:8080" = none ∧ validateFQDN "+10.0.0.1" ≠ none ∧
      ¬ "+8080".toList.all Char.isDigit := by
  decide

end Pilot
