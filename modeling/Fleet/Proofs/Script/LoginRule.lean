import Fleet.Service.Scripts

/-!
# Which login a session presents

Five sources can give a login or a half of one, and each of them may be absent. An override counts
alone. Otherwise the account is that of the node's record, and only a record without credentials
leaves it to the caller's fallback account, and then to the account of the provider. The key is that
of the options, and only when there is none that of the node's record. A login is presented when
both halves are there, the account is not blank and the key is not empty.

The options of a script run and those of a template are two ways to name the sources, and the rule
is the same for both.
-/

namespace Fleet

/-- Where a login may come from. -/
structure LoginSources where
  /-- The login to use instead of any other. -/
  override : Option Credentials
  /-- The private key of the options. -/
  key : Option String
  /-- The account that the caller names for nodes whose record carries no credentials. -/
  fallback : Option String
  /-- The account that the provider names for such nodes. -/
  standard : Option String
  /-- The credentials of the node's record. -/
  own : Option Credentials

namespace LoginSources

/-- The account that the sources give when there is no override. -/
inductive Account (sources : LoginSources) : String → Prop where
  | own {login : Credentials} (known : sources.own = some login) : Account sources login.account
  | fallback {account : String} (unknown : sources.own = none)
      (named : sources.fallback = some account) : Account sources account
  | standard {account : String} (unknown : sources.own = none) (unnamed : sources.fallback = none)
      (named : sources.standard = some account) : Account sources account

/-- The key that the sources give when there is no override. -/
inductive Key (sources : LoginSources) : String → Prop where
  | given {key : String} (given : sources.key = some key) : Key sources key
  | own {login : Credentials} (notGiven : sources.key = none)
      (known : sources.own = some login) : Key sources login.key

/-- The login that the sources give: an override as a whole, or else an account and a key. -/
inductive Gives (sources : LoginSources) : Credentials → Prop where
  | whole {login : Credentials} (overridden : sources.override = some login) : Gives sources login
  | halves {login : Credentials} (plain : sources.override = none)
      (account : sources.Account login.account) (key : sources.Key login.key) :
      Gives sources login

/-- The login that is presented: the one that the sources give, if it has an account and a key. -/
structure Presents (sources : LoginSources) (login : Credentials) : Prop where
  given : sources.Gives login
  named : Text.isBlankText login.account = false
  keyed : login.key ≠ ""

/-- The account is that of the first source which gives one. -/
theorem account_iff
    (sources : LoginSources)
    {account : String} :
    (sources.own.map Credentials.account).or (sources.fallback.or sources.standard) =
      some account ↔ sources.Account account := by
  constructor
  · intro found
    cases known : sources.own with
    | some login =>
      rw [known] at found
      cases found
      exact .own known
    | none =>
      cases named : sources.fallback with
      | some fallback =>
        rw [known, named] at found
        cases found
        exact .fallback known named
      | none =>
        rw [known, named] at found
        exact .standard known named found
  · rintro (known | ⟨unknown, named⟩ | ⟨unknown, unnamed, named⟩)
    · rw [known]
      rfl
    · rw [unknown, named]
      rfl
    · rw [unknown, unnamed, named]
      rfl

/-- The key is that of the first source which gives one. -/
theorem key_iff
    (sources : LoginSources)
    {key : String} :
    sources.key.or (sources.own.map Credentials.key) = some key ↔ sources.Key key := by
  constructor
  · intro found
    cases given : sources.key with
    | some other =>
      rw [given] at found
      cases found
      exact .given given
    | none =>
      rw [given, Option.none_or, Option.map_eq_some_iff] at found
      obtain ⟨login, known, rfl⟩ := found
      exact .own given known
  · rintro (given | ⟨notGiven, known⟩)
    · rw [given]
      rfl
    · rw [notGiven, known]
      rfl

theorem isComplete_iff {login : Credentials} :
    login.isComplete = true ↔ Text.isBlankText login.account = false ∧ login.key ≠ "" := by
  simp [Credentials.isComplete]

end LoginSources

namespace RunOptions

/-- The sources for a node that the options of a run name, beside the account of a provider. -/
def sources (options : RunOptions) (standard : Option String) (node : Node) : LoginSources where
  override := options.override
  key := options.privateKey
  fallback := options.fallbackAccount
  standard := standard
  own := node.credentials

theorem loginOf_eq_some_iff
    {account key : Option String}
    {login : Credentials} :
    loginOf account key = some login ↔
      account = some login.account ∧ key = some login.key ∧ login.isComplete = true := by
  simp only [loginOf, Option.bind_eq_bind, Option.bind_eq_some_iff, Option.ite_none_right_eq_some,
    Option.some.injEq]
  constructor
  · rintro ⟨name, rfl, secret, rfl, complete, rfl⟩
    exact ⟨rfl, rfl, complete⟩
  · rintro ⟨rfl, rfl, complete⟩
    exact ⟨_, rfl, _, rfl, complete, rfl⟩

end RunOptions

/-- The sources for a node that the options of a template name, beside the account of a provider. A
template has no fallback account. -/
def TemplateOptions.sources
    (options : TemplateOptions)
    (standard : Option String)
    (node : Node) :
    LoginSources where
  override := options.override
  key := options.privateKey
  fallback := none
  standard := standard
  own := node.credentials

namespace LoginSources

variable {sources : LoginSources} {login : Credentials}

theorem gives_of_override
    {whole : Credentials}
    (overridden : sources.override = some whole) :
    sources.Gives login ↔ login = whole := by
  constructor
  · rintro (same | plain)
    · exact Option.some.inj (same.symm.trans overridden)
    · rw [overridden] at plain
      cases plain
  · rintro rfl
    exact .whole overridden

theorem gives_of_plain (plain : sources.override = none) :
    sources.Gives login ↔ sources.Account login.account ∧ sources.Key login.key := by
  constructor
  · rintro (overridden | ⟨_, account, key⟩)
    · rw [plain] at overridden
      cases overridden
    · exact ⟨account, key⟩
  · rintro ⟨account, key⟩
    exact .halves plain account key

/-- The sources present one login at most. -/
theorem Presents.unique
    {other : Credentials}
    (presents : sources.Presents login)
    (presentsOther : sources.Presents other) :
    login = other := by
  cases overridden : sources.override with
  | some whole =>
    rw [(gives_of_override overridden).1 presents.given,
      (gives_of_override overridden).1 presentsOther.given]
  | none =>
    obtain ⟨account, key⟩ := (gives_of_plain overridden).1 presents.given
    obtain ⟨otherAccount, otherKey⟩ := (gives_of_plain overridden).1 presentsOther.given
    have sameAccount : login.account = other.account := Option.some.inj
      (((account_iff sources).2 account).symm.trans ((account_iff sources).2 otherAccount))
    have sameKey : login.key = other.key := Option.some.inj
      (((key_iff sources).2 key).symm.trans ((key_iff sources).2 otherKey))
    obtain ⟨name, secret⟩ := login
    obtain ⟨otherName, otherSecret⟩ := other
    exact Credentials.mk.injEq .. ▸ ⟨sameAccount, sameKey⟩

theorem presents_iff :
    sources.Presents login ↔ sources.Gives login ∧ login.isComplete = true := by
  rw [isComplete_iff]
  exact ⟨fun presents => ⟨presents.given, presents.named, presents.keyed⟩,
    fun ⟨given, named, keyed⟩ => ⟨given, named, keyed⟩⟩

end LoginSources

namespace Service

variable {σ S : Type}

/-- With the account of the provider, the login for a node is the one that the rule presents. -/
theorem credentialsFor_withLoginAccount_iff
    {provider : Provider σ}
    {options : RunOptions}
    {node : Node}
    {login : Credentials} :
    (withLoginAccount provider options).credentialsFor node = some login ↔
      (options.sources provider.loginAccount node).Presents login := by
  rw [LoginSources.presents_iff, RunOptions.credentialsFor]
  cases overridden : options.override with
  | some whole =>
    rw [LoginSources.gives_of_override overridden]
    simp only [withLoginAccount, overridden, Option.ite_none_right_eq_some, Option.some.injEq]
    constructor
    · rintro ⟨complete, rfl⟩
      exact ⟨rfl, complete⟩
    · rintro ⟨rfl, complete⟩
      exact ⟨complete, rfl⟩
  | none =>
    rw [LoginSources.gives_of_plain overridden, ← LoginSources.account_iff,
      ← LoginSources.key_iff,
      and_assoc]
    simp only [withLoginAccount, overridden]
    exact RunOptions.loginOf_eq_some_iff

/-- The script of a template is given the login that the rule presents. -/
theorem credentialsFor_scriptOptions_iff
    {service : Service σ S}
    {options : TemplateOptions}
    {node : Node}
    {login : Credentials} :
    (service.scriptOptions options).credentialsFor node = some login ↔
      (options.sources service.provider.loginAccount node).Presents login :=
  credentialsFor_withLoginAccount_iff

end Service

end Fleet
