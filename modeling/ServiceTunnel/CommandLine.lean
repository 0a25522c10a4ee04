import ServiceTunnel.Settings

/-!
# ServiceTunnel.CommandLine

**Reading the command line.** Every flag but the two that ask for information takes one value,
either behind an equals sign or as the next word. A value in the next word is taken in only when
the flag after it is read, so a word that is no flag at all is reported before a bad value just
behind it. What no flag gives comes from the environment, and else from the default.
-/

namespace ServiceTunnel

/-- The flags that take a value. -/
inductive Flag where
  | flyApiToken
  | flyOrg
  | flyRegion
  | flyMachineSize
  | loadBalancerClass
  | frpsImage
  | frpcImage
  | ns
  | leaderElection
  | leaderElectionNamespace
  | healthProbeBindAddress
  | flyApiUrl
  | flyGraphqlUrl
deriving DecidableEq, Repr

namespace Flag

/-- All flags. -/
def all : List Flag := [.flyApiToken, .flyOrg, .flyRegion, .flyMachineSize, .loadBalancerClass,
  .frpsImage, .frpcImage, .ns, .leaderElection, .leaderElectionNamespace, .healthProbeBindAddress,
  .flyApiUrl, .flyGraphqlUrl]

/-- The word of a flag, without its dashes. -/
def word : Flag → String
  | .flyApiToken => "fly-api-token"
  | .flyOrg => "fly-org"
  | .flyRegion => "fly-region"
  | .flyMachineSize => "fly-machine-size"
  | .loadBalancerClass => "load-balancer-class"
  | .frpsImage => "frps-image"
  | .frpcImage => "frpc-image"
  | .ns => "namespace"
  | .leaderElection => "leader-election"
  | .leaderElectionNamespace => "leader-election-namespace"
  | .healthProbeBindAddress => "health-probe-bind-address"
  | .flyApiUrl => "fly-api-url"
  | .flyGraphqlUrl => "fly-graphql-url"

/-- The flag of a word. -/
def ofWord? (word : List Char) : Option Flag := all.find? fun f => f.word.toList == word

/-- The variable that can stand for a flag. -/
def envName? : Flag → Option String
  | .flyApiToken => some "FLY_API_TOKEN"
  | .flyOrg => some "FLY_ORG"
  | .flyRegion => some "FLY_REGION"
  | .ns => some "OPERATOR_NAMESPACE"
  | _ => none

/-- Whether a flag takes the value. -/
def accepts (f : Flag) (value : String) : Bool :=
  f != .leaderElection || value == "true" || value == "false"

/-- The options with the value of a flag put in. -/
def apply (o : Options) (f : Flag) (value : String) : Options :=
  match f with
  | .flyApiToken => { o with flyApiToken := some value }
  | .flyOrg => { o with flyOrg := some value }
  | .flyRegion => { o with flyRegion := some value }
  | .flyMachineSize => { o with flyMachineSize := value }
  | .loadBalancerClass => { o with loadBalancerClass := value }
  | .frpsImage => { o with frpsImage := value }
  | .frpcImage => { o with frpcImage := value }
  | .ns => { o with ns := value }
  | .leaderElection => { o with leaderElection := value == "true" }
  | .leaderElectionNamespace => { o with leaderElectionNamespace := value }
  | .healthProbeBindAddress => { o with healthProbeBindAddress := value }
  | .flyApiUrl => { o with flyApiUrl := value }
  | .flyGraphqlUrl => { o with flyGraphqlUrl := value }

end Flag

namespace CommandLine

/-- Why a command line gives no options. -/
inductive Stop where
  | unknownArgument
  | invalidValue
  | argumentConflict
  | tooManyValues
  | displayHelp
  | displayVersion
deriving DecidableEq, Repr

/-- The wording. -/
def Stop.message : Stop → String
  | .unknownArgument => "there is a word that is no flag and no value"
  | .invalidValue => "a flag has no value, or one that it does not take"
  | .argumentConflict => "a flag is given twice"
  | .tooManyValues => "a flag that takes no value has one"
  | .displayHelp => "flags: " ++ " ".intercalate (Flag.all.map fun f => s!"--{f.word} VALUE")
  | .displayVersion => "fly-tunnel-operator"

/-- Whether what stops the reading was asked for. -/
def Stop.isAnswer (s : Stop) : Bool := s == .displayHelp || s == .displayVersion

/-- What has been read: the values taken in, and the flag whose value is still to be taken in. -/
structure Progress where
  taken : List (Flag × String) := []
  pending : Option (Flag × Option String) := none
deriving DecidableEq, Repr

namespace Progress

/-- Takes in the value of a flag. -/
def take (p : Progress) (f : Flag) (value : Option String) : Except Stop Progress :=
  match value with
  | none => .error .invalidValue
  | some v =>
    if p.taken.any fun t => t.1 == f then .error .argumentConflict
    else if f.accepts v then .ok { taken := p.taken ++ [(f, v)], pending := none }
    else .error .invalidValue

/-- Takes in the value that is pending. -/
def settle (p : Progress) : Except Stop Progress :=
  match p.pending with
  | none => .ok p
  | some (f, v) => { p with pending := none }.take f v

end Progress

/-- A word of the command line, by its form. -/
inductive Word where
  /-- The two dashes that end the flags. -/
  | escape
  /-- Two dashes and a word, and what follows an equals sign. -/
  | long (word : List Char) (value : Option (List Char))
  /-- One dash and letters. -/
  | short (letters : List Char)
  /-- Anything else. -/
  | plain (value : String)
deriving DecidableEq, Repr

/-- The form of a word. -/
def Word.ofString (s : String) : Word :=
  match s.toList with
  | ['-', '-'] => .escape
  | '-' :: '-' :: cs =>
    let word := cs.takeWhile (· != '=')
    match cs.dropWhile (· != '=') with
    | [] => .long word none
    | _ :: value => .long word (some value)
  | '-' :: c :: cs => .short (c :: cs)
  | _ => .plain s

/-- Stops for information, once what is pending has been taken in. -/
def inform (p : Progress) (what : Stop) : Except Stop Progress :=
  match p.settle with
  | .error e => .error e
  | .ok _ => .error what

/-- Reads one word; `true` in the result says that the flags have ended. -/
def step (p : Progress) (w : Word) : Except Stop (Progress × Bool) :=
  match w with
  | .escape => .ok (p, true)
  | .long word value =>
    match Flag.ofWord? word with
    | some f =>
      match p.settle, value with
      | .error e, _ => .error e
      | .ok p, some v => (p.take f (some (String.ofList v))).map (·, false)
      | .ok p, none => .ok ({ p with pending := some (f, none) }, false)
    | none =>
      if word = "help".toList ∨ word = "version".toList then
        if value.isSome then .error .tooManyValues
        else
          (inform p (if word = "help".toList then .displayHelp else .displayVersion)).map (·, false)
      else .error .unknownArgument
  | .short letters =>
    match letters with
    | 'h' :: _ => (inform p .displayHelp).map (·, false)
    | 'V' :: _ => (inform p .displayVersion).map (·, false)
    | _ => .error .unknownArgument
  | .plain value =>
    match p.pending with
    | some (f, none) => .ok ({ p with pending := some (f, some value) }, false)
    | _ => .error .unknownArgument

/-- Reads the words of a command line. -/
def read (p : Progress) : List String → Except Stop Progress
  | [] => p.settle
  | w :: rest =>
    match step p (.ofString w) with
    | .error e => .error e
    | .ok (p, false) => read p rest
    | .ok (p, true) => if rest.isEmpty then p.settle else .error .unknownArgument

/-- The options of a command line, where `env` gives the variables that are set. -/
def options (env : Dict String String) (argv : List String) : Except Stop Options :=
  match read {} argv with
  | .error e => .error e
  | .ok p =>
    let fromEnv := Flag.all.foldl (fun o f =>
      match f.envName?.bind env.get? with
      | some v => f.apply o v
      | none => o) ({} : Options)
    .ok (p.taken.foldl (fun o t => t.1.apply o t.2) fromEnv)

end CommandLine

end ServiceTunnel
