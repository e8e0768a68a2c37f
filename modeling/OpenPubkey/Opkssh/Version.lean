import Mathlib.Data.Nat.Digits
import OpenPubkey.Runtime

set_option autoImplicit false

namespace OpenPubkey.Opkssh

def beforeSep (sep : List Char) : List Char → List Char
  | [] => []
  | c :: rest => if sep.isPrefixOf (c :: rest) then [] else c :: beforeSep sep rest

def trimPrefix (s pre : List Char) : List Char :=
  if pre.isPrefixOf s then s.drop pre.length else s

def startsWithDigit : List Char → Bool
  | c :: _ => c.isDigit
  | [] => false

def dottedTail : List Char → List Char
  | [] => []
  | c :: rest =>
    if c.isDigit then c :: dottedTail rest
    else if c = '.' ∧ startsWithDigit rest then '.' :: dottedTail rest
    else []

def versionMatch : List Char → Option String
  | [] => none
  | c :: rest => if c.isDigit then some ⟨c :: dottedTail rest⟩ else none

/-- Go's `s < t` on strings: the first differing byte decides, and a proper prefix
is smaller. UTF-8 keeps the order of code points, so bytes compare as characters do. -/
def stringLess : List Char → List Char → Bool
  | [], [] => false
  | [], _ :: _ => true
  | _ :: _, [] => false
  | a :: as, b :: bs => decide (a.toNat < b.toNat) || (decide (a.toNat = b.toNat) && stringLess as bs)

def isOpenSSHVersion8Dot1OrGreater (opensshVersion : String) : Go Bool := do
  let opensshVersion := trimPrefix (beforeSep ", ".data opensshVersion.data) "OpenSSH_".data
  let version ← Go.expect "invalid OpenSSH version" (versionMatch opensshVersion)
  pure !(stringLess version.data "8.1".data)

def checkOpenSSHVersion (output : Except String String) : List String :=
  match output with
  | .error err => ["Error executing ssh -V: " ++ err]
  | .ok output =>
    match isOpenSSHVersion8Dot1OrGreater output with
    | .ok true => []
    | .ok false => ["OpenPubkey SSH requires OpenSSH v. 8.1 or greater"]
    | .error _ => ["Invalid OpenSSH version", "OpenPubkey SSH requires OpenSSH v. 8.1 or greater"]

theorem toDigitsCore_append (f n : Nat) (ds : List Char) :
    Nat.toDigitsCore 10 f n ds = Nat.toDigitsCore 10 f n [] ++ ds := by
  induction f generalizing n ds with
  | zero => rfl
  | succ f ih =>
    simp only [Nat.toDigitsCore]
    split
    · rfl
    · rw [ih, ih _ [_]]
      simp

theorem toDigitsCore_fuel (f f' n : Nat) (ds : List Char) (enough : n < f) (enough' : n < f') :
    Nat.toDigitsCore 10 f n ds = Nat.toDigitsCore 10 f' n ds := by
  induction f generalizing f' n ds with
  | zero => omega
  | succ f ih =>
    obtain ⟨f', rfl⟩ : ∃ g, f' = g + 1 := ⟨f' - 1, by omega⟩
    simp only [Nat.toDigitsCore]
    split
    · rfl
    · exact ih _ _ _ (by omega) (by omega)

theorem toDigits_of_lt (n : Nat) (small : n < 10) : Nat.toDigits 10 n = [Nat.digitChar n] := by
  simp [Nat.toDigits, Nat.toDigitsCore, Nat.div_eq_of_lt small, Nat.mod_eq_of_lt small]

theorem toDigits_of_ge (n : Nat) (large : 10 ≤ n) :
    Nat.toDigits 10 n = Nat.toDigits 10 (n / 10) ++ [Nat.digitChar (n % 10)] := by
  have positive : n / 10 ≠ 0 := by omega
  have step : Nat.toDigits 10 n = Nat.toDigitsCore 10 n (n / 10) [Nat.digitChar (n % 10)] := by
    simp only [Nat.toDigits, Nat.toDigitsCore, positive, if_false]
  rw [step, toDigitsCore_append, Nat.toDigits, toDigitsCore_fuel n (n / 10 + 1) _ _ (by omega) (by omega)]

theorem isDigit_digitChar : ∀ n < 10, (Nat.digitChar n).isDigit := by decide

theorem toDigits_isDigit (n : Nat) : ∀ c ∈ Nat.toDigits 10 n, c.isDigit := by
  induction n using Nat.strong_induction_on with
  | _ n ih =>
    rcases Nat.lt_or_ge n 10 with small | large
    · rw [toDigits_of_lt n small, List.forall_mem_singleton]
      exact isDigit_digitChar n small
    · rw [toDigits_of_ge n large, List.forall_mem_append, List.forall_mem_singleton]
      exact ⟨ih (n / 10) (by omega), isDigit_digitChar _ (Nat.mod_lt _ (by omega))⟩

theorem toDigits_ne_nil (n : Nat) : Nat.toDigits 10 n ≠ [] := by
  rcases Nat.lt_or_ge n 10 with small | large
  · simp [toDigits_of_lt n small]
  · simp [toDigits_of_ge n large]

theorem toDigits_head (n : Nat) (positive : 1 ≤ n) :
    ∃ c cs, Nat.toDigits 10 n = c :: cs ∧ '1'.toNat ≤ c.toNat := by
  induction n using Nat.strong_induction_on with
  | _ n ih =>
    rcases Nat.lt_or_ge n 10 with small | large
    · have leading : ∀ n < 10, 1 ≤ n → '1'.toNat ≤ (Nat.digitChar n).toNat := by decide
      exact ⟨_, [], toDigits_of_lt n small, leading n small positive⟩
    · obtain ⟨c, cs, digits, leading⟩ := ih (n / 10) (by omega) (by omega)
      exact ⟨c, cs ++ [_], by rw [toDigits_of_ge n large, digits, List.cons_append], leading⟩

theorem toDigits_two_digits (n : Nat) (large : 10 ≤ n) (small : n < 100) :
    Nat.toDigits 10 n = [Nat.digitChar (n / 10), Nat.digitChar (n % 10)] := by
  rw [toDigits_of_ge n large, toDigits_of_lt _ (by omega)]
  rfl

def continuesNumber : List Char → Bool
  | c :: rest => c.isDigit || (c = '.' && startsWithDigit rest)
  | [] => false

theorem beforeSep_append (p r : List Char) (noComma : ∀ c ∈ p, c ≠ ',') :
    beforeSep ", ".data (p ++ r) = p ++ beforeSep ", ".data r := by
  induction p with
  | nil => rfl
  | cons c p ih =>
    have other : c ≠ ',' := noComma c (List.mem_cons_self _ _)
    simp [beforeSep, List.isPrefixOf, other, other.symm, ih fun d member => noComma d (List.mem_cons_of_mem _ member)]

theorem startsWithDigit_beforeSep (sep r : List Char) (digit : startsWithDigit (beforeSep sep r)) :
    startsWithDigit r := by
  cases r with
  | nil => exact digit
  | cons c r =>
    simp only [beforeSep] at digit
    split at digit
    · cases digit
    · exact digit

theorem continuesNumber_beforeSep (sep r : List Char) (stops : continuesNumber r = false) :
    continuesNumber (beforeSep sep r) = false := by
  cases r with
  | nil => rfl
  | cons c r =>
    simp only [beforeSep]
    split
    · rfl
    · simp only [continuesNumber, Bool.or_eq_false_iff, Bool.and_eq_false_iff] at stops ⊢
      exact ⟨stops.1, stops.2.imp_right fun stop => Bool.eq_false_iff.2 fun digit => by
        simp [startsWithDigit_beforeSep sep r digit] at stop⟩

theorem trimPrefix_append (pre s : List Char) : trimPrefix (pre ++ s) pre = s := by
  simp [trimPrefix, List.prefix_append]

theorem dottedTail_digits (ds r : List Char) (digits : ∀ c ∈ ds, c.isDigit) :
    dottedTail (ds ++ r) = ds ++ dottedTail r := by
  induction ds with
  | nil => rfl
  | cons c ds ih =>
    simp only [List.mem_cons, forall_eq_or_imp] at digits
    simp [dottedTail, digits.1, ih digits.2]

theorem dottedTail_stop (r : List Char) (stops : continuesNumber r = false) : dottedTail r = [] := by
  cases r with
  | nil => rfl
  | cons c r =>
    simp only [continuesNumber, Bool.or_eq_false_iff, Bool.and_eq_false_iff, decide_eq_false_iff_not] at stops
    simp [dottedTail, stops.1]
    exact stops.2.neg_resolve_left

def versionText (M m : Nat) : List Char := Nat.toDigits 10 M ++ '.' :: Nat.toDigits 10 m

theorem versionMatch_versionText (M m : Nat) (r : List Char) (stops : continuesNumber r = false) :
    versionMatch (versionText M m ++ r) = some ⟨versionText M m⟩ := by
  obtain ⟨c, cs, major⟩ := List.exists_cons_of_ne_nil (toDigits_ne_nil M)
  obtain ⟨d, ds, minor⟩ := List.exists_cons_of_ne_nil (toDigits_ne_nil m)
  obtain ⟨leading, majorRest⟩ := List.forall_mem_cons.1 (major ▸ toDigits_isDigit M)
  obtain ⟨afterDot, minorRest⟩ := List.forall_mem_cons.1 (minor ▸ toDigits_isDigit m)
  simp [versionText, major, minor, versionMatch, leading, dottedTail_digits cs _ majorRest, dottedTail,
    startsWithDigit, afterDot, dottedTail_digits ds _ minorRest, dottedTail_stop r stops]

theorem data_toString (n : Nat) : (toString n).data = Nat.toDigits 10 n := rfl

theorem isOpenSSHVersion8Dot1OrGreater_eq (M m : Nat) (rest : String) (stops : continuesNumber rest.data = false) :
    isOpenSSHVersion8Dot1OrGreater ("OpenSSH_" ++ toString M ++ "." ++ toString m ++ rest) =
      .ok !(stringLess (versionText M m) "8.1".data) := by
  have noComma : ∀ c ∈ "OpenSSH_".data ++ versionText M m, c ≠ ',' := by
    rintro _ member rfl
    simp [versionText] at member
    rcases member with major | minor
    · exact absurd (toDigits_isDigit M _ major) (by decide)
    · exact absurd (toDigits_isDigit m _ minor) (by decide)
  have data : ("OpenSSH_" ++ toString M ++ "." ++ toString m ++ rest).data =
      ("OpenSSH_".data ++ versionText M m) ++ rest.data := by
    simp [versionText, data_toString]
  unfold isOpenSSHVersion8Dot1OrGreater
  rw [data, beforeSep_append _ rest.data noComma, List.append_assoc, trimPrefix_append]
  dsimp only
  rw [versionMatch_versionText M m _ (continuesNumber_beforeSep _ rest.data stops)]
  rfl

@[simp] theorem stringLess_nil_right (s : List Char) : stringLess s [] = false := by
  cases s <;> rfl

theorem stringLess_cons_of_lt {a b : Char} (as bs : List Char) (below : a.toNat < b.toNat) :
    stringLess (a :: as) (b :: bs) = true := by
  simp [stringLess, below]

theorem stringLess_cons_of_gt {a b : Char} (as bs : List Char) (above : b.toNat < a.toNat) :
    stringLess (a :: as) (b :: bs) = false := by
  simp [stringLess, Nat.not_lt_of_gt above, Nat.ne_of_gt above]

theorem stringLess_cons_same (a : Char) (as bs : List Char) : stringLess (a :: as) (a :: bs) = stringLess as bs := by
  simp [stringLess]

theorem stringLess_singleton {c b : Char} (cs : List Char) (notBelow : b.toNat ≤ c.toNat) :
    stringLess (c :: cs) [b] = false := by
  simp [stringLess, Nat.not_lt_of_le notBelow]

theorem digitChar_lt_eight : ∀ n < 8, (Nat.digitChar n).toNat < '8'.toNat := by decide

theorem versionText_lt_single_digit (M m : Nat) (small : M < 10) :
    stringLess (versionText M m) "8.1".data = !decide (8 < M ∨ M = 8 ∧ 1 ≤ m) := by
  rw [versionText, toDigits_of_lt M small, List.singleton_append, show "8.1".data = ['8', '.', '1'] from rfl]
  rcases Nat.lt_trichotomy M 8 with below | rfl | above
  · rw [stringLess_cons_of_lt _ _ (digitChar_lt_eight M below)]
    simp only [@eq_comm _ true, Bool.not_eq_true', decide_eq_false_iff_not]
    omega
  · rw [show Nat.digitChar 8 = '8' from rfl, stringLess_cons_same, stringLess_cons_same]
    rcases Nat.eq_zero_or_pos m with rfl | positive
    · rfl
    · obtain ⟨c, cs, digits, leading⟩ := toDigits_head m positive
      rw [digits, stringLess_singleton cs leading]
      simpa using positive
  · obtain rfl : M = 9 := by omega
    exact stringLess_cons_of_gt _ _ (by decide)

theorem versionText_lt_two_digit (M m : Nat) (large : 10 ≤ M) (small : M < 80) :
    stringLess (versionText M m) "8.1".data = true := by
  rw [versionText, toDigits_two_digits M large (by omega), List.cons_append]
  exact stringLess_cons_of_lt _ _ (digitChar_lt_eight (M / 10) (by omega))

theorem isOpenSSHVersion8Dot1OrGreater_single_digit (M m : Nat) (rest : String)
    (stops : continuesNumber rest.data = false) (small : M < 10) :
    isOpenSSHVersion8Dot1OrGreater ("OpenSSH_" ++ toString M ++ "." ++ toString m ++ rest) =
      .ok (decide (8 < M ∨ M = 8 ∧ 1 ≤ m)) := by
  rw [isOpenSSHVersion8Dot1OrGreater_eq M m rest stops, versionText_lt_single_digit M m small, Bool.not_not]

example : isOpenSSHVersion8Dot1OrGreater "OpenSSH_9.6p1 Ubuntu-3ubuntu13, OpenSSL 3.0.13 30 Jan 2024" = .ok true := by
  decide

theorem isOpenSSHVersion8Dot1OrGreater_two_digit (M m : Nat) (rest : String)
    (stops : continuesNumber rest.data = false) (large : 10 ≤ M) (small : M < 80) :
    isOpenSSHVersion8Dot1OrGreater ("OpenSSH_" ++ toString M ++ "." ++ toString m ++ rest) = .ok false := by
  rw [isOpenSSHVersion8Dot1OrGreater_eq M m rest stops, versionText_lt_two_digit M m large small]
  rfl

theorem isOpenSSHVersion8Dot1OrGreater_rejects_openssh_10 :
    "OpenSSH_10.0p1, OpenSSL 3.0.13 30 Jan 2024" =
      "OpenSSH_" ++ toString 10 ++ "." ++ toString 0 ++ "p1, OpenSSL 3.0.13 30 Jan 2024" ∧
    continuesNumber "p1, OpenSSL 3.0.13 30 Jan 2024".data = false ∧ (8 < 10 ∨ 10 = 8 ∧ 1 ≤ 0) ∧
    isOpenSSHVersion8Dot1OrGreater "OpenSSH_10.0p1, OpenSSL 3.0.13 30 Jan 2024" = .ok false ∧
    checkOpenSSHVersion (.ok "OpenSSH_10.0p1, OpenSSL 3.0.13 30 Jan 2024") =
      ["OpenPubkey SSH requires OpenSSH v. 8.1 or greater"] := by
  decide

end OpenPubkey.Opkssh
