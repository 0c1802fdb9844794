import Fleet.Config.Client

/-!
# How the client reads its arguments

The client takes arguments that begin with a hyphen for options until it meets one that does not;
two hyphens alone end the options early. The first argument behind the options is the destination,
and what follows it is the command. What a session passes is read back part by part as long as the
account does not begin with a hyphen. Otherwise the destination is one more option, and the client
looks for the destination in the command.
-/

namespace Fleet

/-- An option, as the client reads it. -/
inductive ClientOption where
  /-- The name of an option with the next argument as its value. -/
  | valued (name value : String)
  /-- An argument that is an option by itself. -/
  | whole (text : String)
  deriving DecidableEq, Repr

/-- What the client makes of its arguments. -/
structure ClientReading where
  options : List ClientOption := []
  destination : Option String := none
  command : List String := []
  deriving DecidableEq, Repr

namespace ClientReading

/-- The options of a session whose value is the next argument. -/
def valuedNames : List String := ["-p", "-i", "-o"]

/-- The argument looks like an option. -/
def IsOptionLike (argument : String) : Prop :=
  argument.toList.head? = some '-'

instance (argument : String) : Decidable (IsOptionLike argument) :=
  inferInstanceAs (Decidable (_ = _))

/-- The reading with options in front of it. -/
def behind (options : List ClientOption) (reading : ClientReading) : ClientReading :=
  { reading with options := options ++ reading.options }

/-- Arguments behind the options. -/
def ofOperands : List String → ClientReading
  | [] => {}
  | destination :: command => { destination := some destination, command := command }

/-- What the client makes of its arguments; nothing when an option lacks its value. -/
def ofArguments : List String → Option ClientReading
  | [] => some (ofOperands [])
  | argument :: rest =>
    if argument ∈ valuedNames then
      match rest with
      | [] => none
      | value :: further => (ofArguments further).map (behind [.valued argument value])
    else if argument = "--" then
      some (ofOperands rest)
    else if IsOptionLike argument then
      (ofArguments rest).map (behind [.whole argument])
    else
      some (ofOperands (argument :: rest))

theorem behind_nil : behind [] = id := rfl

theorem behind_comp (first second : List ClientOption) :
    behind first ∘ behind second = behind (first ++ second) := by
  funext reading
  simp [behind]

theorem ofArguments_of_unnamed
    {argument : String}
    (unnamed : argument ∉ valuedNames)
    (unmarked : argument ≠ "--")
    (rest : List String) :
    ofArguments (argument :: rest) =
      if IsOptionLike argument then (ofArguments rest).map (behind [.whole argument])
      else some (ofOperands (argument :: rest)) := by
  rw [ofArguments.eq_def]
  exact (if_neg unnamed).trans (if_neg unmarked)

theorem ofArguments_valued
    {name : String}
    (known : name ∈ valuedNames)
    (value : String)
    (rest : List String) :
    ofArguments (name :: value :: rest) = (ofArguments rest).map (behind [.valued name value]) :=
  if_pos known

/-- Settings in front of other arguments are read one by one, whatever their texts are. -/
theorem ofArguments_settings (texts rest : List String) :
    ofArguments (texts.flatMap ClientSession.setting ++ rest) =
      (ofArguments rest).map (behind (texts.map (.valued "-o"))) := by
  induction texts with
  | nil => rw [List.map_nil, behind_nil, Option.map_id]; rfl
  | cons text texts inductionHypothesis =>
    have option : ofArguments ((text :: texts).flatMap ClientSession.setting ++ rest) = _ :=
      ofArguments_valued (by decide) text (texts.flatMap ClientSession.setting ++ rest)
    rw [option, inductionHypothesis, Option.map_map, behind_comp]
    rfl

end ClientReading

namespace ClientSession

open ClientReading

/-- The settings that are passed to the client, as the names that it knows with their values. -/
def passedSettings (settings : ClientSettings) : List (String × String) :=
  [("IdentitiesOnly", "yes"), ("ConnectTimeout", toString settings.connectTimeout)] ++
    (if settings.batchMode then [("BatchMode", "yes")] else []) ++
    (if settings.strictHostKeys then [] else [("StrictHostKeyChecking", "no")]) ++
    (if Text.isBlankText settings.knownHostsFile then []
      else [("UserKnownHostsFile", settings.knownHostsFile)])

/-- A setting as one text. -/
def settingText (entry : String × String) : String :=
  entry.1 ++ "=" ++ entry.2

/-- The options that the client is to find. -/
def leadingOptions
    (settings : ClientSettings)
    (keyPath : String)
    (session : ClientSession) :
    List ClientOption :=
  [.valued "-p" (toString session.endpoint.port), .valued "-i" keyPath] ++
    (passedSettings settings).map (.valued "-o" ∘ settingText)

/-- The destination that the client is to find. -/
def destination (session : ClientSession) : String :=
  s!"{session.credentials.account}@{session.endpoint.address.toText}"

/-- The arguments in their order: port, key file, settings, destination, command. -/
theorem arguments_eq
    (settings : ClientSettings)
    (keyPath : String)
    (session : ClientSession)
    (command : String) :
    arguments settings keyPath session command =
      "-p" :: toString session.endpoint.port :: "-i" :: keyPath ::
        (((passedSettings settings).map settingText).flatMap setting ++
          [session.destination, command]) := by
  have plain : ∀ text : String, toString text = text := fun _ => rfl
  simp only [arguments, passedSettings, destination]
  cases settings.batchMode <;> cases settings.strictHostKeys <;>
    cases Text.isBlankText settings.knownHostsFile <;>
      simp [setting, settingText, plain]

theorem toList_destination (session : ClientSession) :
    session.destination.toList =
      session.credentials.account.toList ++ '@' :: session.endpoint.address.toText.toList := by
  show (session.credentials.account ++ "@" ++ session.endpoint.address.toText).toList = _
  rw [String.toList_append, String.toList_append, List.append_assoc]
  rfl

/-- No option is named like a destination. -/
theorem destination_ne
    {argument : String}
    (plain : '@' ∉ argument.toList)
    (session : ClientSession) :
    session.destination ≠ argument := by
  rintro rfl
  simp [toList_destination] at plain

/-- A destination looks like an option when its account does. -/
theorem isOptionLike_destination_iff (session : ClientSession) :
    IsOptionLike session.destination ↔ IsOptionLike session.credentials.account := by
  rw [IsOptionLike, IsOptionLike, toList_destination]
  cases session.credentials.account.toList <;> simp

/-- The destination is read as such unless the account looks like an option. -/
theorem ofArguments_destination
    (session : ClientSession)
    (rest : List String) :
    ofArguments (session.destination :: rest) =
      if IsOptionLike session.credentials.account then
        (ofArguments rest).map (behind [.whole session.destination])
      else
        some { destination := some session.destination, command := rest } := by
  have unnamed : session.destination ∉ valuedNames := by
    intro named
    have plain : ∀ name ∈ valuedNames, '@' ∉ name.toList := by decide +kernel
    exact destination_ne (plain _ named) session rfl
  have unmarked : session.destination ≠ "--" := destination_ne (by decide +kernel) session
  rw [ofArguments_of_unnamed unnamed unmarked]
  simp only [isOptionLike_destination_iff]
  rfl

/-- Everything up to the destination is read as the options of the session. -/
theorem ofArguments_arguments
    (settings : ClientSettings)
    (keyPath : String)
    (session : ClientSession)
    (command : String) :
    ofArguments (arguments settings keyPath session command) =
      (ofArguments [session.destination, command]).map
        (behind (leadingOptions settings keyPath session)) := by
  rw [arguments_eq, ofArguments_valued (by decide), ofArguments_valued (by decide),
    ofArguments_settings, Option.map_map, Option.map_map, behind_comp, behind_comp, List.map_map]
  rfl

/-- The client reads back what a session passes exactly when the account does not begin with a
hyphen: the port, the key file and the settings as options with their values, then the destination,
then the command. If the account begins with a hyphen, the destination is one more option, and the
client goes on to read the command as it reads arguments. -/
theorem arguments_read_back_iff
    (settings : ClientSettings)
    (keyPath : String)
    (session : ClientSession)
    (command : String) :
    let reading := ofArguments (arguments settings keyPath session command)
    let options := leadingOptions settings keyPath session
    (reading = some ⟨options, some session.destination, [command]⟩ ↔
      ¬ IsOptionLike session.credentials.account) ∧
    (IsOptionLike session.credentials.account →
      reading = (ofArguments [command]).map (behind (options ++ [.whole session.destination]))) ∧
    Text.readDigits (toString session.endpoint.port).toList = some session.endpoint.port := by
  intro reading options
  have read : reading = _ := ofArguments_arguments settings keyPath session command
  rw [ofArguments_destination] at read
  refine ⟨⟨?_, ?_⟩, ?_, Text.readDigits_toString _⟩
  · intro complete optionLike
    rw [read, if_pos optionLike, Option.map_map, behind_comp] at complete
    obtain ⟨further, _, same⟩ := Option.map_eq_some_iff.1 complete
    have counted : (options ++ [ClientOption.whole session.destination] ++ further.options).length =
        options.length := congrArg (List.length ∘ ClientReading.options) same
    simp only [List.length_append, List.length_singleton] at counted
    omega
  · intro plain
    rw [read, if_neg plain]
    simp [behind, options]
  · intro optionLike
    rw [read, if_pos optionLike, Option.map_map, behind_comp]

/-- A login for an account that begins with a hyphen, at a host. -/
def hyphenLogin : ClientSession where
  endpoint := { address := .v4 198 51 100 7, port := 2222 }
  credentials := { account := "-oUser=admin", key := "KEY" }

/-- The login is complete and the settings are accepted, and still the client takes the account for
an option and the command for the host. Two hyphens in front of the destination would have kept it
apart from the options. -/
theorem hyphen_account_is_read_as_option :
    ClientSettings.validate {} = .ok () ∧ hyphenLogin.credentials.isComplete = true ∧
    ofArguments (arguments {} "key" hyphenLogin "true") =
      some ⟨leadingOptions {} "key" hyphenLogin ++ [.whole "-oUser=admin@198.51.100.7"],
        some "true", []⟩ ∧
    ofArguments ((arguments {} "key" hyphenLogin "true").insertIdx 14 "--") =
      some ⟨leadingOptions {} "key" hyphenLogin, some "-oUser=admin@198.51.100.7",
        ["true"]⟩ := by
  refine ⟨rfl, ?_, ?_, ?_⟩ <;> decide +kernel

end ClientSession

end Fleet
