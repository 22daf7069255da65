import TileCache.Config.Environment
import TileCache.Proofs.Layout
import TileCache.Proofs.Numeral
set_option autoImplicit false

/-!
# Settings from the environment, exactly

Four of the variables have to hold a value of a type: one a truth value, and three a number of 64
bits. If each of them that is set holds one, the settings are what the variables hold, and the
defaults where a variable is not set; otherwise the first that holds none is named in the error. A
variable whose octets are no text counts as unset here, and no other variables matter.

## Main definitions

* `TileCache.Environment.Reads` — what a variable is read as.
* `TileCache.Environment.Obeys` — a variable is unset or holds one of some texts.
* `TileCache.Config.typedVariables` — the variables that have to hold a value of a type, with the
  texts of such values.
* `TileCache.Config.withValues` — the settings of an environment, given the values of these.

## Main results

* `TileCache.Environment.readWith_eq_ok_iff`, `exists_readWith_iff` — one variable, however it is
  read.
* `TileCache.Config.exists_of_ofEnvironment_error` — the first variable that is wrong is named.
* `TileCache.Config.ofEnvironment_exact` — all of it.
-/

namespace TileCache

/-! ## One variable -/

namespace Environment

variable {α : Type}

/-- The value of a variable, if it is set, given how its text is read. -/
def readWith (env : Environment) (read : String → Except StorageError α) (name : String) :
    Except StorageError (Option α) :=
  match env.text? name with
  | none => .ok none
  | some text => (read text).map some

/-- What a variable is read as, given how values are written: nothing if it is not set, and
otherwise the value that it holds a text of. -/
def Reads (env : Environment) (Writes : α → List Char → Prop) (name : String) : Option α → Prop
  | none => env.text? name = none
  | some a => ∃ text, env.text? name = some text ∧ Writes a text.toList

/-- A variable is unset, or holds one of the texts that are given with its name. -/
def Obeys (env : Environment) (v : String × (List Char → Prop)) : Prop :=
  ∀ text, env.text? v.1 = some text → v.2 text.toList

variable {env : Environment} {read : String → Except StorageError α} {name : String}
  {Writes : α → List Char → Prop}

/-- What a variable is read as, if its reader accepts the texts of values and no others. -/
lemma readWith_eq_ok_iff (h : ∀ text a, read text = .ok a ↔ Writes a text.toList)
    {a? : Option α} : env.readWith read name = .ok a? ↔ env.Reads Writes name a? := by
  unfold readWith Reads
  cases htext : env.text? name with
  | none => cases a? <;> simp
  | some text =>
    dsimp only
    cases a? with
    | none => cases read text <;> simp [Except.map]
    | some a =>
      simp only [Option.some.injEq, exists_eq_left', ← h]
      cases read text <;> simp [Except.map]

/-- A variable is read unless it is set to a text of no value. -/
lemma exists_readWith_iff (h : ∀ text a, read text = .ok a ↔ Writes a text.toList) :
    (∃ a?, env.readWith read name = .ok a?) ↔ env.Obeys (name, fun text => ∃ a, Writes a text) := by
  simp only [readWith_eq_ok_iff h, Obeys]
  constructor
  · rintro ⟨_ | a, hreads⟩ text htext
    · exact absurd (hreads.symm.trans htext) nofun
    · obtain ⟨text', htext', hwrites⟩ := hreads
      obtain rfl := Option.some.inj (htext.symm.trans htext')
      exact ⟨a, hwrites⟩
  · intro hobeys
    cases htext : env.text? name with
    | none => exact ⟨none, htext⟩
    | some text =>
      obtain ⟨a, hwrites⟩ := hobeys text htext
      exact ⟨some a, text, htext, hwrites⟩

/-- A variable that is not read is set to a text that its reader refuses. -/
lemma exists_of_readWith_error {e : StorageError} (h : env.readWith read name = .error e) :
    ∃ text, read text = .error e := by
  unfold readWith at h
  cases htext : env.text? name with
  | none =>
    rw [htext] at h
    cases h
  | some text =>
    rw [htext] at h
    refine ⟨text, ?_⟩
    cases hread : read text with
    | ok a =>
      simp only [hread] at h
      cases h
    | error e' =>
      simp only [hread] at h
      cases h
      rfl

end Environment

namespace Config

open Text

/-! ## The types of variables -/

/-- Reads the truth value of a variable. -/
def readTruthOf (name text : String) : Except StorageError Bool :=
  match readTruth (trim text.toList) with
  | some b => .ok b
  | none => .error (badVariable name truthFault)

/-- Reads the number of a variable. -/
def readNumberOf (name text : String) : Except StorageError UInt64 :=
  match readNatural UInt64.size (trim text.toList) with
  | .ok n => .ok (UInt64.ofNat n)
  | .error fault => .error (badVariable name fault.message)

/-- The texts of truth values. -/
def IsTruth (text : List Char) : Prop :=
  ∃ b, WritesTruth b text

/-- The texts of numbers of 64 bits. -/
def IsNumber64 (text : List Char) : Prop :=
  ∃ n, n < UInt64.size ∧ WritesNumber n text

section Typed

variable {env : Environment} {name text : String} {e : StorageError}

/-- A truth value is read with its reader. -/
lemma truthVariable?_eq : truthVariable? env name = env.readWith (readTruthOf name) name := by
  unfold truthVariable? Environment.readWith readTruthOf
  cases env.text? name with
  | none => rfl
  | some text =>
    dsimp only
    cases readTruth (trim text.toList) <;> rfl

/-- A number is read with its reader. -/
lemma numberVariable?_eq : numberVariable? env name = env.readWith (readNumberOf name) name := by
  unfold numberVariable? Environment.readWith readNumberOf
  cases env.text? name with
  | none => rfl
  | some text =>
    dsimp only
    cases readNatural UInt64.size (trim text.toList) <;> rfl

/-- The reader of truth values accepts their texts. -/
lemma readTruthOf_eq_ok_iff {b : Bool} :
    readTruthOf name text = .ok b ↔ WritesTruth b text.toList := by
  rw [← readTruth_trim_eq_some_iff, readTruthOf]
  cases readTruth (trim text.toList) <;> simp

/-- The reader of numbers accepts the texts of numbers of 64 bits. -/
lemma readNumberOf_eq_ok_iff {n : UInt64} :
    readNumberOf name text = .ok n ↔ WritesNumber n.toNat text.toList := by
  have hread : readNatural UInt64.size (trim text.toList) = .ok n.toNat ↔
      WritesNumber n.toNat text.toList := by
    rw [readNatural_trim_eq_ok_iff (by decide)]
    exact and_iff_left n.toNat_lt
  rw [← hread, readNumberOf]
  cases hvalue : readNatural UInt64.size (trim text.toList) with
  | error fault => simp
  | ok m =>
    have hm : m < UInt64.size := ((readNatural_trim_eq_ok_iff (by decide)).1 hvalue).2
    simp only [Except.ok.injEq, ← UInt64.toNat_inj, UInt64.toNat_ofNat_of_lt' hm]

/-- A text is that of a number of 64 bits if it is that of a word. -/
lemma isNumber64_iff {text : List Char} :
    IsNumber64 text ↔ ∃ n : UInt64, WritesNumber n.toNat text := by
  constructor
  · rintro ⟨n, hn, h⟩
    exact ⟨UInt64.ofNat n, by rwa [UInt64.toNat_ofNat_of_lt' hn]⟩
  · rintro ⟨n, h⟩
    exact ⟨n.toNat, n.toNat_lt, h⟩

/-- What a variable with a truth value is read as. -/
lemma truth_eq_ok_iff {b? : Option Bool} :
    env.readWith (readTruthOf name) name = .ok b? ↔ env.Reads WritesTruth name b? :=
  Environment.readWith_eq_ok_iff fun _ _ => readTruthOf_eq_ok_iff

/-- What a variable with a number is read as. -/
lemma number_eq_ok_iff {n? : Option UInt64} :
    env.readWith (readNumberOf name) name = .ok n? ↔
      env.Reads (fun n => WritesNumber n.toNat) name n? :=
  Environment.readWith_eq_ok_iff fun _ _ => readNumberOf_eq_ok_iff

/-- A variable with a truth value is read unless it disobeys. -/
lemma exists_truth_iff :
    (∃ b?, env.readWith (readTruthOf name) name = .ok b?) ↔ env.Obeys (name, IsTruth) :=
  Environment.exists_readWith_iff fun _ _ => readTruthOf_eq_ok_iff

/-- A variable with a number is read unless it disobeys. -/
lemma exists_number_iff :
    (∃ n?, env.readWith (readNumberOf name) name = .ok n?) ↔ env.Obeys (name, IsNumber64) := by
  rw [Environment.exists_readWith_iff fun _ _ => readNumberOf_eq_ok_iff]
  simp only [Environment.Obeys, isNumber64_iff]

/-- The error of a variable with a truth value names it. -/
lemma badVariable_of_truth (h : env.readWith (readTruthOf name) name = .error e) :
    ∃ reason, e = badVariable name reason := by
  obtain ⟨text, herror⟩ := Environment.exists_of_readWith_error h
  unfold readTruthOf at herror
  split at herror <;> cases herror
  exact ⟨_, rfl⟩

/-- The error of a variable with a number names it. -/
lemma badVariable_of_number (h : env.readWith (readNumberOf name) name = .error e) :
    ∃ reason, e = badVariable name reason := by
  obtain ⟨text, herror⟩ := Environment.exists_of_readWith_error h
  unfold readNumberOf at herror
  split at herror <;> cases herror
  exact ⟨_, rfl⟩

/-- What is not read disobeys. -/
lemma not_obeys_of_error {α : Type} {x : Except StorageError α} {p : Prop}
    (hiff : (∃ a, x = .ok a) ↔ p) (h : x = .error e) : ¬p := by
  rw [← hiff]
  rintro ⟨a, ha⟩
  rw [h] at ha
  cases ha

end Typed

/-! ## All of the settings -/

/-- The variables that have to hold a value of a type, in the order in which they are looked at, each
with the texts of such values. -/
def typedVariables : List (String × (List Char → Prop)) :=
  [("TILE_STORE_USE_HTTPS", IsTruth), ("TILE_STORE_MAX_CONNECTIONS", IsNumber64),
   ("TILE_STORE_REQUEST_TIMEOUT_SECS", IsNumber64), ("TILE_STORE_DELETE_BATCH_SIZE", IsNumber64)]

/-- The settings of an environment, given the values of the variables that have a type: texts are
taken as they are, and what is not set has its default. -/
def withValues (env : Environment) (useHttps : Option Bool)
    (maxConnections timeout batchSize : Option UInt64) : Config where
  bucket := (env.text? "TILE_STORE_BUCKET").getD ""
  root := env.text? "TILE_STORE_PREFIX"
  endpoint := env.text? "TILE_STORE_ENDPOINT"
  region := (env.text? "TILE_STORE_REGION").getD "us-east-1"
  accessKey := (env.text? "TILE_STORE_ACCESS_KEY_ID").getD ""
  secretKey := (env.text? "TILE_STORE_SECRET_ACCESS_KEY").getD ""
  useHttps := useHttps.getD true
  maxConnections := maxConnections
  proxy := env.text? "TILE_STORE_PROXY_URL"
  timeout := timeout
  batchSize := batchSize.getD 1000

section Settings

variable {env : Environment} {e : StorageError} {c : Config}

/-- The settings are made of the values of the variables that have a type. -/
lemma ofEnvironment_eq (env : Environment) :
    ofEnvironment env = (do
      let useHttps ← env.readWith (readTruthOf "TILE_STORE_USE_HTTPS") "TILE_STORE_USE_HTTPS"
      let maxConnections ←
        env.readWith (readNumberOf "TILE_STORE_MAX_CONNECTIONS") "TILE_STORE_MAX_CONNECTIONS"
      let timeout ← env.readWith (readNumberOf "TILE_STORE_REQUEST_TIMEOUT_SECS")
        "TILE_STORE_REQUEST_TIMEOUT_SECS"
      let batchSize ←
        env.readWith (readNumberOf "TILE_STORE_DELETE_BATCH_SIZE") "TILE_STORE_DELETE_BATCH_SIZE"
      return withValues env useHttps maxConnections timeout batchSize) := by
  simp only [← truthVariable?_eq, ← numberVariable?_eq]
  rfl

/-- What the settings are, if there are any. -/
lemma ofEnvironment_eq_ok_iff :
    ofEnvironment env = .ok c ↔ ∃ useHttps maxConnections timeout batchSize,
      env.Reads WritesTruth "TILE_STORE_USE_HTTPS" useHttps ∧
      env.Reads (fun n => WritesNumber n.toNat) "TILE_STORE_MAX_CONNECTIONS" maxConnections ∧
      env.Reads (fun n => WritesNumber n.toNat) "TILE_STORE_REQUEST_TIMEOUT_SECS" timeout ∧
      env.Reads (fun n => WritesNumber n.toNat) "TILE_STORE_DELETE_BATCH_SIZE" batchSize ∧
      c = withValues env useHttps maxConnections timeout batchSize := by
  simp only [ofEnvironment_eq, Layout.bind_eq_ok_iff, truth_eq_ok_iff, number_eq_ok_iff, pure,
    Except.pure, Except.ok.injEq, exists_and_left, @eq_comm Config c]

/-- A sequence fails just if its first part does, or passes and what follows fails. -/
lemma bind_eq_error_iff {ε α β : Type} {x : Except ε α} {f : α → Except ε β} {e : ε} :
    x >>= f = .error e ↔ x = .error e ∨ ∃ a, x = .ok a ∧ f a = .error e := by
  cases x <;> simp [bind, Except.bind]

/-- There are settings just if every variable that has a type obeys it. -/
lemma exists_ofEnvironment_iff :
    (∃ c, ofEnvironment env = .ok c) ↔ ∀ v ∈ typedVariables, env.Obeys v := by
  simp only [typedVariables, List.forall_mem_cons, List.not_mem_nil, false_imp_iff, implies_true,
    and_true, ← exists_truth_iff, ← exists_number_iff, ofEnvironment_eq, Layout.bind_eq_ok_iff]
  constructor
  · rintro ⟨c, https, h₁, maxConnections, h₂, timeout, h₃, batchSize, h₄, -⟩
    exact ⟨⟨https, h₁⟩, ⟨maxConnections, h₂⟩, ⟨timeout, h₃⟩, ⟨batchSize, h₄⟩⟩
  · rintro ⟨⟨https, h₁⟩, ⟨maxConnections, h₂⟩, ⟨timeout, h₃⟩, ⟨batchSize, h₄⟩⟩
    exact ⟨_, https, h₁, maxConnections, h₂, timeout, h₃, batchSize, h₄, rfl⟩

/-- **The first variable that disobeys is named** in the error. -/
lemma exists_of_ofEnvironment_error (h : ofEnvironment env = .error e) :
    ∃ earlier v later reason, typedVariables = earlier ++ v :: later ∧
      (∀ u ∈ earlier, env.Obeys u) ∧ ¬env.Obeys v ∧ e = badVariable v.1 reason := by
  rw [ofEnvironment_eq, bind_eq_error_iff] at h
  rcases h with h₁ | ⟨https, h₁, h⟩
  · obtain ⟨reason, hreason⟩ := badVariable_of_truth h₁
    exact ⟨[], _, _, reason, rfl, nofun, not_obeys_of_error exists_truth_iff h₁, hreason⟩
  have hhttps := exists_truth_iff.1 ⟨https, h₁⟩
  rcases bind_eq_error_iff.1 h with h₂ | ⟨maxConnections, h₂, h⟩
  · obtain ⟨reason, hreason⟩ := badVariable_of_number h₂
    exact ⟨[_], _, _, reason, rfl, by simpa using hhttps,
      not_obeys_of_error exists_number_iff h₂, hreason⟩
  have hmaxConnections := exists_number_iff.1 ⟨maxConnections, h₂⟩
  rcases bind_eq_error_iff.1 h with h₃ | ⟨timeout, h₃, h⟩
  · obtain ⟨reason, hreason⟩ := badVariable_of_number h₃
    exact ⟨[_, _], _, _, reason, rfl, by simpa using ⟨hhttps, hmaxConnections⟩,
      not_obeys_of_error exists_number_iff h₃, hreason⟩
  have htimeout := exists_number_iff.1 ⟨timeout, h₃⟩
  rcases bind_eq_error_iff.1 h with h₄ | ⟨batchSize, -, h⟩
  · obtain ⟨reason, hreason⟩ := badVariable_of_number h₄
    exact ⟨[_, _, _], _, _, reason, rfl, by simpa using ⟨hhttps, hmaxConnections, htimeout⟩,
      not_obeys_of_error exists_number_iff h₄, hreason⟩
  · cases h

/-- Variables that are read alike give the same settings. -/
lemma ofEnvironment_congr {env' : Environment}
    (h : ∀ name ∈ variableNames, env'.text? name = env.text? name) :
    ofEnvironment env' = ofEnvironment env := by
  simp only [variableNames, List.forall_mem_cons, List.not_mem_nil, false_imp_iff, implies_true,
    and_true] at h
  simp only [ofEnvironment, truthVariable?, numberVariable?, h]

end Settings

/-- **Loading from the environment is exact.** There are settings if and only if each variable that
has to hold a value of a type is unset or holds a text of one, blanks around it aside: for the use of
encryption one of the two truth values, for the three numbers decimal digits with an optional plus
before them and a value below `2 ^ 64`. Then the settings are these values, the texts of the other
variables as they are, and the defaults for what is unset. Otherwise the error is one of the
settings, and names the first of the four that holds another text. Only the eleven variables matter,
and these by their texts: one whose octets are no text is as good as unset.

**Proof sketch.** The readers of truth values and of numbers accept the texts that are written for a
value and no others; so a variable is read just if it obeys. The four are read one after the other,
and the first that is not read ends it. -/
theorem ofEnvironment_exact (env : Environment) :
    ((∃ c, ofEnvironment env = .ok c) ↔ ∀ v ∈ typedVariables, env.Obeys v) ∧
    (∀ c, ofEnvironment env = .ok c ↔ ∃ useHttps maxConnections timeout batchSize,
      env.Reads WritesTruth "TILE_STORE_USE_HTTPS" useHttps ∧
      env.Reads (fun n => WritesNumber n.toNat) "TILE_STORE_MAX_CONNECTIONS" maxConnections ∧
      env.Reads (fun n => WritesNumber n.toNat) "TILE_STORE_REQUEST_TIMEOUT_SECS" timeout ∧
      env.Reads (fun n => WritesNumber n.toNat) "TILE_STORE_DELETE_BATCH_SIZE" batchSize ∧
      c = withValues env useHttps maxConnections timeout batchSize) ∧
    (∀ e, ofEnvironment env = .error e →
      ∃ earlier v later reason, typedVariables = earlier ++ v :: later ∧
        (∀ u ∈ earlier, env.Obeys u) ∧ ¬env.Obeys v ∧
        e = .config (.badVariable v.1 reason)) ∧
    ∀ env' : Environment, (∀ name ∈ variableNames, env'.text? name = env.text? name) →
      ofEnvironment env' = ofEnvironment env :=
  ⟨exists_ofEnvironment_iff, fun _ => ofEnvironment_eq_ok_iff,
    fun _ => exists_of_ofEnvironment_error, fun _ => ofEnvironment_congr⟩

/-- Blanks of any kind, a plus and zeros may stand before a number. -/
example :
    (ofEnvironment (.ofList [("TILE_STORE_DELETE_BATCH_SIZE", Utf8.encode "\u00a0+0064\n")])).map
      Config.batchSize = .ok 64 := by
  decide +kernel

end Config

end TileCache
