import OpenZk.Json
import OpenZk.TextScan
import OpenZk.Words

set_option autoImplicit false

namespace OpenZk

open Words

structure FastTrackArgs where
  l1RpcUrl : String
  l2RpcUrl : String
  l1BeaconUrl : String
  deployerKey : Text
  startingBlock : UInt64
  challengeTimeout : UInt64
  withDisputeGame : Bool

structure DeploymentResult where
  oracleAddress : Address
  disputeGameAddress : Option Address
  deployer : Address
  startingBlock : UInt64
deriving DecidableEq

inductive FastTrackError where
  | failed (message : String)
  | panicked
deriving DecidableEq

namespace FastTrack

def oracleName : Text := ['O', 'p', 'e', 'n', 'Z', 'k', 'L', '2', 'O', 'u', 't', 'p', 'u', 't', 'O', 'r', 'a', 'c', 'l', 'e']

def disputeGameName : Text := ['O', 'p', 'e', 'n', 'Z', 'k', 'D', 'i', 's', 'p', 'u', 't', 'e', 'G', 'a', 'm', 'e']

def stripPrefix (text : Text) : Text :=
  match text with
  | '0' :: 'x' :: rest => rest
  | text => text

def parseAddress (text : Text) : Option Address :=
  if (stripPrefix text).length = 40 then (Text.readHex 0 (stripPrefix text)).map (BitVec.ofNat 160) else none

def lineAddress (contractName line : Text) : Except FastTrackError (Option Address) :=
  if Text.contains contractName line then
    match Text.find ['0', 'x'] line with
    | none => .ok none
    | some addrStr =>
        if 42 ≤ Text.byteLength addrStr then
          match Text.sliceTo 42 addrStr with
          | none => .error .panicked
          | some addrCandidate => .ok (parseAddress addrCandidate)
        else .ok (parseAddress (Text.trim addrStr))
  else .ok none

def firstAddress (contractName : Text) : List Text → Except FastTrackError (Option Address)
  | [] => .ok none
  | line :: rest =>
      match lineAddress contractName line with
      | .error fault => .error fault
      | .ok (some address) => .ok (some address)
      | .ok none => firstAddress contractName rest

def extractAddress (output contractName : Text) : Except FastTrackError (Option Address) :=
  firstAddress contractName (Text.lines output)

def requireAddress (output contractName : Text) (missing : String) : Except FastTrackError Address :=
  match extractAddress output contractName with
  | .error fault => .error fault
  | .ok none => .error (.failed missing)
  | .ok (some address) => .ok address

def parseDeploymentOutput (output : Text) (args : FastTrackArgs) : Except FastTrackError DeploymentResult :=
  (requireAddress output oracleName "failed to find OpenZkL2OutputOracle address in forge output").bind fun oracleAddress =>
  (if args.withDisputeGame then
    (requireAddress output disputeGameName "failed to find OpenZkDisputeGame address in forge output").map some
  else .ok none).bind fun disputeGameAddress =>
  .ok ⟨oracleAddress, disputeGameAddress, 0, args.startingBlock⟩

def isHexDigit (letter : Char) : Bool := (Text.hexValue letter).isSome

def validKey (key : Text) : Bool := Text.byteLength (stripPrefix key) = 64 && (stripPrefix key).all isHexDigit

structure ForgeCall where
  rpcUrl : String
  deployerPrivateKey : Text
  deployDisputeGame : String
  challengeTimeout : Text
deriving DecidableEq

def forgeCall (args : FastTrackArgs) : ForgeCall where
  rpcUrl := args.l1RpcUrl
  deployerPrivateKey := if ['0', 'x'] <+: args.deployerKey then args.deployerKey else '0' :: 'x' :: args.deployerKey
  deployDisputeGame := if args.withDisputeGame then "true" else "false"
  challengeTimeout := (toString args.challengeTimeout.toNat).toList

/-- The command line around the deployment: the chain ids of the two nodes, the installed Foundry,
the output of the script, the SP1_PROVER variable, the JSON printer and the file system. -/
structure Shell where
  verifyConnectivity : String → String → Except String Unit
  checkFoundry : Except String Unit
  runForge : ForgeCall → Except String Text
  sp1Prover : Option String
  checksum : Address → Nat → Bool
  toStringPretty : Json → Except String String
  write : String → String → Except String Unit

def printAddress (checksum : Address → Nat → Bool) (address : Address) : Text :=
  '0' :: 'x' :: Text.hexText (checksum address) 40 address.toNat

def mockMode (shell : Shell) : Bool := shell.sp1Prover = some "mock"

def addressText (shell : Shell) (address : Address) : Json := .string (String.ofList (printAddress shell.checksum address))

def deploymentJson (shell : Shell) (args : FastTrackArgs) (result : DeploymentResult) : Json :=
  .build [("oracle_address", addressText shell result.oracleAddress),
    ("dispute_game_address", (result.disputeGameAddress.map (addressText shell)).getD .null),
    ("starting_block", .number (.posInt result.startingBlock)), ("l1_rpc_url", .string args.l1RpcUrl),
    ("l2_rpc_url", .string args.l2RpcUrl), ("l1_beacon_url", .string args.l1BeaconUrl), ("mock_mode", .bool (mockMode shell))]

def deploy (shell : Shell) (args : FastTrackArgs) : Except FastTrackError DeploymentResult :=
  if validKey args.deployerKey then
    ((shell.verifyConnectivity args.l1RpcUrl args.l2RpcUrl).mapError .failed).bind fun _ =>
    (shell.checkFoundry.mapError .failed).bind fun _ =>
    ((shell.runForge (forgeCall args)).mapError .failed).bind fun output =>
    parseDeploymentOutput output args
  else .error (.failed "invalid deployer key: must be 64 hex characters")

def writeDeployment (shell : Shell) (args : FastTrackArgs) (result : DeploymentResult) : Except FastTrackError Unit :=
  ((shell.toStringPretty (deploymentJson shell args result)).mapError .failed).bind fun text =>
  (shell.write "deployment.json" text).mapError .failed

structure Outcome where
  summary : Option DeploymentResult
  ended : Except FastTrackError Unit

def execute (shell : Shell) (args : FastTrackArgs) : Outcome :=
  match deploy shell args with
  | .error failure => ⟨none, .error failure⟩
  -- The summary is printed first and stays printed when the file cannot be written.
  | .ok result => ⟨some result, writeDeployment shell args result⟩

structure Deployed where
  mockSp1 : Address
  mockRisc0 : Address
  oracle : Address
  disputeGame : Address

def logLine (label value : Text) : Text := ' ' :: ' ' :: (label ++ ' ' :: value)

def addressLine (checksum : Address → Nat → Bool) (label : Text) (address : Address) : Text :=
  logLine label (printAddress checksum address)

def oracleLabel : Text := oracleName ++ [':', ' ', ' ', ' ', ' ']

def disputeGameLabel : Text := disputeGameName ++ [':', ' ', ' ', ' ', ' ', ' ', ' ']

def timeoutLabel : Text :=
  [' ', ' ', 'c', 'h', 'a', 'l', 'l', 'e', 'n', 'g', 'e', 'T', 'i', 'm', 'e', 'o', 'u', 't', ':', ' ', ' ', ' ', ' ', ' ',
    ' ']

def sp1Label : Text :=
  ['M', 'o', 'c', 'k', 'S', 'P', '1', 'V', 'e', 'r', 'i', 'f', 'i', 'e', 'r', ':', ' ', ' ', ' ', ' ', ' ', ' ', ' ', ' ']

def risc0Label : Text :=
  ['M', 'o', 'c', 'k', 'R', 'i', 's', 'c', 'Z', 'e', 'r', 'o', 'V', 'e', 'r', 'i', 'f', 'i', 'e', 'r', ':', ' ', ' ', ' ',
    ' ']

def deployLogs (checksum : Address → Nat → Bool) (call : ForgeCall) (deployed : Deployed) : List Text :=
  (if call.deployDisputeGame = "true" then
    [addressLine checksum disputeGameLabel deployed.disputeGame, logLine timeoutLabel call.challengeTimeout]
  else []) ++
  [addressLine checksum sp1Label deployed.mockSp1, addressLine checksum risc0Label deployed.mockRisc0,
    addressLine checksum oracleLabel deployed.oracle]

def forgeOutput (preamble : Text) (logs : List Text) (rest : Text) : Text :=
  preamble ++ '\n' :: (logs.flatMap (· ++ ['\n']) ++ rest)

example : oracleName = "OpenZkL2OutputOracle".toList := by decide

theorem print_ascii (checksum : Address → Nat → Bool) (address : Address) : Text.Ascii (printAddress checksum address) := by
  intro letter listed
  rcases List.mem_cons.mp listed with rfl | listed
  · rfl
  · rcases List.mem_cons.mp listed with rfl | listed
    · rfl
    · exact Text.hex_text_ascii _ _ _ letter listed

theorem print_length (checksum : Address → Nat → Bool) (address : Address) : (printAddress checksum address).length = 42 := by
  simp [printAddress, Text.hex_text_length]

theorem print_lacks (checksum : Address → Nat → Bool) (address : Address) (letter : Char) (different : letter ≠ 'x')
    (upper : letter ∉ Text.hexLetters true) (lower : letter ∉ Text.hexLetters false) : letter ∉ printAddress checksum address := by
  have digits := Text.hex_text_lacks (checksum address) 40 address.toNat letter upper lower
  have zero : letter ≠ '0' := fun same => upper (by rw [same]; simp [Text.hexLetters])
  simp [printAddress, zero, different, digits]

theorem parse_print_address (checksum : Address → Nat → Bool) (address : Address) :
    parseAddress (printAddress checksum address) = some address := by
  have fits : address.toNat < 16 ^ 40 := address.isLt
  simp only [parseAddress, printAddress, stripPrefix, Text.hex_text_length, if_true, Text.read_hex_text _ _ _ fits,
    Option.map_some, BitVec.ofNat_toNat, BitVec.setWidth_eq]

theorem find_printed (checksum : Address → Nat → Bool) (label : Text) (address : Address) (unmarked : '0' ∉ label) :
    Text.find ['0', 'x'] (addressLine checksum label address) = some (printAddress checksum address) := by
  have split : addressLine checksum label address = (' ' :: ' ' :: (label ++ [' '])) ++ printAddress checksum address := by
    simp [addressLine, logLine]
  have absent : '0' ∉ (' ' :: ' ' :: (label ++ [' '])) := by simp [unmarked]
  have marked : printAddress checksum address = ['0', 'x'] ++ Text.hexText (checksum address) 40 address.toNat := by
    simp only [printAddress, List.cons_append, List.nil_append]
  rw [split, Text.find_past '0' ['x'] _ absent, marked, Text.find_here]

theorem line_address_logged (checksum : Address → Nat → Bool) (contractName label : Text) (address : Address)
    (names : Text.contains contractName (addressLine checksum label address) = true) (unmarked : '0' ∉ label) :
    lineAddress contractName (addressLine checksum label address) = .ok (some address) := by
  have long : 42 ≤ Text.byteLength (printAddress checksum address) := by
    rw [Text.byte_length_ascii _ (print_ascii checksum address), print_length]
  have sliced := Text.slice_ascii (printAddress checksum address) [] (print_ascii checksum address)
  rw [print_length, List.append_nil] at sliced
  simp only [lineAddress, names, if_true, find_printed checksum label address unmarked, long, sliced, parse_print_address]

theorem line_address_silent (contractName line : Text) (silent : Text.contains contractName line = false) :
    lineAddress contractName line = .ok none := by
  simp [lineAddress, silent]

theorem first_address_skips (contractName : Text) (front back : List Text)
    (silent : ∀ line ∈ front, Text.contains contractName line = false) :
    firstAddress contractName (front ++ back) = firstAddress contractName back := by
  induction front with
  | nil => rfl
  | cons line front ih =>
      rw [List.cons_append, firstAddress, line_address_silent contractName line (silent line List.mem_cons_self)]
      exact ih fun other member => silent other (List.mem_cons_of_mem _ member)

theorem first_address_found (contractName line : Text) (front back : List Text) (address : Address)
    (silent : ∀ other ∈ front, Text.contains contractName other = false)
    (found : lineAddress contractName line = .ok (some address)) :
    firstAddress contractName (front ++ line :: back) = .ok (some address) := by
  rw [first_address_skips contractName front _ silent, firstAddress, found]

theorem log_line_lacks (label value : Text) (letter : Char) (inLabel : letter ∉ label) (inValue : letter ∉ value) (blank : letter ≠ ' ') :
    letter ∉ logLine label value := by
  simp [logLine, inLabel, inValue, blank]

theorem timeout_lacks (args : FastTrackArgs) (letter : Char) (other : letter.isDigit = false) :
    letter ∉ (forgeCall args).challengeTimeout := by
  intro listed
  have digits : letter ∈ Nat.toDigits 10 args.challengeTimeout.toNat := by
    simpa [forgeCall, Nat.toString_eq_repr] using listed
  rw [Nat.isDigit_of_mem_toDigits (by omega) (by omega) digits] at other
  cases other

section Logs

variable (checksum : Address → Nat → Bool) (args : FastTrackArgs) (deployed : Deployed)

def disputeLogs (call : ForgeCall) : List Text :=
  if call.deployDisputeGame = "true" then
    [addressLine checksum disputeGameLabel deployed.disputeGame, logLine timeoutLabel call.challengeTimeout]
  else []

def verifierLogs : List Text :=
  [addressLine checksum sp1Label deployed.mockSp1, addressLine checksum risc0Label deployed.mockRisc0]

theorem logs_end (call : ForgeCall) :
    deployLogs checksum call deployed =
      (disputeLogs checksum deployed call ++ verifierLogs checksum deployed) ++ [addressLine checksum oracleLabel deployed.oracle] := by
  rw [List.append_assoc]
  rfl

theorem dispute_flag : (forgeCall args).deployDisputeGame = "true" ↔ args.withDisputeGame = true := by
  cases chosen : args.withDisputeGame <;> simp [forgeCall, chosen]

structure Unused (letter : Char) : Prop where
  blank : letter ≠ ' '
  mark : letter ≠ 'x'
  upper : letter ∉ Text.hexLetters true
  lower : letter ∉ Text.hexLetters false
  decimal : letter.isDigit = false
  dispute : letter ∉ disputeGameLabel
  timeout : letter ∉ timeoutLabel
  sp1 : letter ∉ sp1Label
  risc0 : letter ∉ risc0Label

theorem address_line_lacks (letter : Char) (unused : Unused letter) (label : Text) (absent : letter ∉ label) (address : Address) :
    letter ∉ addressLine checksum label address :=
  log_line_lacks label _ letter absent (print_lacks checksum address letter unused.mark unused.upper unused.lower) unused.blank

theorem earlier_logs_lack (letter : Char) (unused : Unused letter) (row : Text)
    (listed : row ∈ disputeLogs checksum deployed (forgeCall args) ++ verifierLogs checksum deployed) : letter ∉ row := by
  have lacks := address_line_lacks checksum letter unused
  have timeout := log_line_lacks timeoutLabel _ letter unused.timeout (timeout_lacks args letter unused.decimal) unused.blank
  rcases List.mem_append.mp listed with dispute | verifier
  · rw [disputeLogs] at dispute
    split at dispute
    · rcases List.mem_pair.mp dispute with rfl | rfl
      · exact lacks disputeGameLabel unused.dispute deployed.disputeGame
      · exact timeout
    · simp at dispute
  · rcases List.mem_pair.mp verifier with rfl | rfl
    · exact lacks sp1Label unused.sp1 deployed.mockSp1
    · exact lacks risc0Label unused.risc0 deployed.mockRisc0

theorem newline_unused : Unused '\n' := by
  constructor <;>
    simp [Text.hexLetters, disputeGameLabel, disputeGameName, timeoutLabel, sp1Label, risc0Label, Char.isDigit]

theorem return_unused : Unused '\r' := by
  constructor <;>
    simp [Text.hexLetters, disputeGameLabel, disputeGameName, timeoutLabel, sp1Label, risc0Label, Char.isDigit]

theorem oracle_letter_unused : Unused 'L' := by
  constructor <;>
    simp [Text.hexLetters, disputeGameLabel, disputeGameName, timeoutLabel, sp1Label, risc0Label, Char.isDigit]

theorem logs_lack (letter : Char) (unused : Unused letter) (absent : letter ∉ oracleLabel) (row : Text)
    (listed : row ∈ deployLogs checksum (forgeCall args) deployed) : letter ∉ row := by
  rw [logs_end] at listed
  rcases List.mem_append.mp listed with earlier | last
  · exact earlier_logs_lack checksum args deployed letter unused row earlier
  · rw [List.mem_singleton.mp last]
    exact address_line_lacks checksum letter unused oracleLabel absent deployed.oracle

theorem output_lines (preamble rest : Text) :
    Text.lines (forgeOutput preamble (deployLogs checksum (forgeCall args) deployed) rest) =
      Text.lines (preamble ++ ['\n']) ++ (deployLogs checksum (forgeCall args) deployed ++ Text.lines rest) := by
  have single := logs_lack checksum args deployed '\n' newline_unused (by simp [oracleLabel, oracleName])
  have plain := logs_lack checksum args deployed '\r' return_unused (by simp [oracleLabel, oracleName])
  rw [forgeOutput, Text.lines_split, Text.lines_of_rows _ single plain]

theorem oracle_logged (preamble rest : Text)
    (quiet : ∀ line ∈ Text.lines (preamble ++ ['\n']), Text.contains oracleName line = false) :
    extractAddress (forgeOutput preamble (deployLogs checksum (forgeCall args) deployed) rest) oracleName =
      .ok (some deployed.oracle) := by
  have names : Text.contains oracleName (addressLine checksum oracleLabel deployed.oracle) = true := by
    rw [Text.contains_iff]
    exact ⟨[' ', ' '], [':', ' ', ' ', ' ', ' '] ++ ' ' :: printAddress checksum deployed.oracle, by simp [addressLine, logLine, oracleLabel]⟩
  have read := line_address_logged checksum oracleName oracleLabel deployed.oracle names (by simp [oracleLabel, oracleName])
  rw [extractAddress, output_lines, logs_end, List.append_assoc, ← List.append_assoc, List.singleton_append]
  refine first_address_found oracleName _ _ _ deployed.oracle ?_ read
  intro other listed
  rcases List.mem_append.mp listed with before | logged
  · exact quiet other before
  · have lacks := earlier_logs_lack checksum args deployed 'L' oracle_letter_unused other logged
    exact Text.contains_absent 'L' oracleName other (by simp [oracleName]) lacks

theorem dispute_game_logged (preamble rest : Text) (chosen : args.withDisputeGame = true)
    (quiet : ∀ line ∈ Text.lines (preamble ++ ['\n']), Text.contains disputeGameName line = false) :
    extractAddress (forgeOutput preamble (deployLogs checksum (forgeCall args) deployed) rest) disputeGameName =
      .ok (some deployed.disputeGame) := by
  have names : Text.contains disputeGameName (addressLine checksum disputeGameLabel deployed.disputeGame) = true := by
    rw [Text.contains_iff]
    exact ⟨[' ', ' '], [':', ' ', ' ', ' ', ' ', ' ', ' '] ++ ' ' :: printAddress checksum deployed.disputeGame,
      by simp [addressLine, logLine, disputeGameLabel]⟩
  have read := line_address_logged checksum disputeGameName disputeGameLabel deployed.disputeGame names
    (by simp [disputeGameLabel, disputeGameName])
  rw [extractAddress, output_lines, deployLogs, if_pos ((dispute_flag args).mpr chosen)]
  exact first_address_found disputeGameName _ _ _ deployed.disputeGame quiet read

def deployedResult : DeploymentResult :=
  ⟨deployed.oracle, if args.withDisputeGame then some deployed.disputeGame else none, 0, args.startingBlock⟩

def Names (json : Json) (key : String) (address : Address) : Prop :=
  ∃ text, json.get key = some (.string text) ∧ parseAddress text.toList = some address

theorem deployment_names (shell : Shell) (result : DeploymentResult) :
    Names (deploymentJson shell args result) "oracle_address" result.oracleAddress ∧
      ∀ disputeGame, result.disputeGameAddress = some disputeGame →
        Names (deploymentJson shell args result) "dispute_game_address" disputeGame := by
  have named (address : Address) : parseAddress (String.ofList (printAddress shell.checksum address)).toList = some address := by
    rw [String.toList_ofList]
    exact parse_print_address shell.checksum address
  refine ⟨⟨_, ?_, named result.oracleAddress⟩, ?_⟩
  · rw [deploymentJson, Json.get_build]
    rfl
  · intro disputeGame chosen
    refine ⟨_, ?_, named disputeGame⟩
    rw [deploymentJson, Json.get_build, chosen]
    rfl

theorem write_deployment_iff (shell : Shell) (result : DeploymentResult) :
    writeDeployment shell args result = .ok () ↔
      ∃ text, shell.toStringPretty (deploymentJson shell args result) = .ok text ∧
        shell.write "deployment.json" text = .ok () := by
  rw [writeDeployment]
  cases printed : shell.toStringPretty (deploymentJson shell args result) with
  | error reason => simp [Except.mapError, Except.bind]
  | ok text =>
      cases written : shell.write "deployment.json" text with
      | error reason => simp [Except.mapError, Except.bind, written]
      | ok done => simp [Except.mapError, Except.bind, written]

theorem deploy_logged (shell : Shell) (preamble rest : Text) (valid : validKey args.deployerKey = true)
    (quiet : ∀ line ∈ Text.lines (preamble ++ ['\n']),
      Text.contains oracleName line = false ∧ Text.contains disputeGameName line = false)
    (connected : shell.verifyConnectivity args.l1RpcUrl args.l2RpcUrl = .ok ()) (installed : shell.checkFoundry = .ok ())
    (ran : shell.runForge (forgeCall args) =
      .ok (forgeOutput preamble (deployLogs checksum (forgeCall args) deployed) rest)) :
    deploy shell args = .ok (deployedResult args deployed) := by
  have oracle := oracle_logged checksum args deployed preamble rest fun line listed => (quiet line listed).1
  simp only [deploy, valid, if_true, connected, installed, ran, Except.mapError, Except.bind, parseDeploymentOutput,
    requireAddress, oracle]
  by_cases chosen : args.withDisputeGame = true
  · have disputeGame := dispute_game_logged checksum args deployed preamble rest chosen fun line listed => (quiet line listed).2
    simp [chosen, disputeGame, Except.map, deployedResult]
  · simp [chosen, deployedResult]

theorem fast_track_reports (shell : Shell) (preamble rest : Text)
    (quiet : ∀ line ∈ Text.lines (preamble ++ ['\n']),
      Text.contains oracleName line = false ∧ Text.contains disputeGameName line = false)
    (connected : shell.verifyConnectivity args.l1RpcUrl args.l2RpcUrl = .ok ()) (installed : shell.checkFoundry = .ok ())
    (ran : shell.runForge (forgeCall args) =
      .ok (forgeOutput preamble (deployLogs checksum (forgeCall args) deployed) rest)) :
    (execute shell args).summary = (if validKey args.deployerKey then some (deployedResult args deployed) else none) ∧
      ((execute shell args).ended = .ok () ↔ validKey args.deployerKey = true ∧
        ∃ text, shell.toStringPretty (deploymentJson shell args (deployedResult args deployed)) = .ok text ∧
          shell.write "deployment.json" text = .ok ()) ∧
      Names (deploymentJson shell args (deployedResult args deployed)) "oracle_address" deployed.oracle ∧
      (args.withDisputeGame = true →
        Names (deploymentJson shell args (deployedResult args deployed)) "dispute_game_address" deployed.disputeGame) := by
  obtain ⟨namesOracle, namesGame⟩ := deployment_names args shell (deployedResult args deployed)
  have names : args.withDisputeGame = true → Names _ "dispute_game_address" deployed.disputeGame := fun chosen =>
    namesGame deployed.disputeGame (if_pos chosen)
  by_cases valid : validKey args.deployerKey = true
  · have logged := deploy_logged checksum args deployed shell preamble rest valid quiet connected installed ran
    refine ⟨?_, ?_, namesOracle, names⟩
    · rw [execute, logged, if_pos valid]
    · rw [execute, logged, write_deployment_iff]
      exact (and_iff_right valid).symm
  · have refused : deploy shell args = .error (.failed "invalid deployer key: must be 64 hex characters") := if_neg valid
    refine ⟨?_, ?_, namesOracle, names⟩
    · rw [execute, refused, if_neg valid]
    · rw [execute, refused]
      exact iff_of_false nofun fun given => valid given.1

end Logs

def sampleArgs : FastTrackArgs where
  l1RpcUrl := "http://127.0.0.1:8545"
  l2RpcUrl := "http://127.0.0.1:9545"
  l1BeaconUrl := "http://127.0.0.1:5052"
  deployerKey := '0' :: 'x' :: List.replicate 64 'a'
  startingBlock := 7
  challengeTimeout := 3600
  withDisputeGame := true

def sampleDeployed : Deployed := ⟨0x51, 0x52, 0xa1, 0xb2⟩

def samplePreamble : Text := ['=', '=', ' ', 'L', 'o', 'g', 's', ' ', '=', '=']

def sampleShell (write : String → String → Except String Unit) : Shell where
  verifyConnectivity := fun _ _ => .ok ()
  checkFoundry := .ok ()
  runForge := fun call => .ok (forgeOutput samplePreamble (deployLogs (fun _ _ => false) call sampleDeployed) [])
  sp1Prover := some "mock"
  checksum := fun _ _ => false
  toStringPretty := fun _ => .ok "(json)"
  write := write

theorem fast_track_reports_sample :
    ((execute (sampleShell fun _ _ => .ok ()) sampleArgs).summary = some ⟨0xa1, some 0xb2, 0, 7⟩ ∧
      (execute (sampleShell fun _ _ => .ok ()) sampleArgs).ended = .ok ()) ∧
      (execute (sampleShell fun _ _ => .error "permission denied") sampleArgs).ended ≠ .ok () := by
  have valid : validKey sampleArgs.deployerKey = true := by
    simp [validKey, sampleArgs, stripPrefix, Text.byteLength, isHexDigit, Text.hexValue, Char.utf8Size]
  have quiet : ∀ line ∈ Text.lines (samplePreamble ++ ['\n']),
      Text.contains oracleName line = false ∧ Text.contains disputeGameName line = false := by
    intro line listed
    have only : line = samplePreamble := by simpa [Text.lines, Text.linesFrom, Text.chop, samplePreamble] using listed
    subst only
    exact ⟨Text.contains_absent 'Z' _ _ (by simp [oracleName]) (by simp [samplePreamble]),
      Text.contains_absent 'Z' _ _ (by simp [disputeGameName]) (by simp [samplePreamble])⟩
  obtain ⟨summary, ended, _⟩ := fast_track_reports (fun _ _ => false) sampleArgs sampleDeployed
    (sampleShell fun _ _ => .ok ()) samplePreamble [] quiet rfl rfl rfl
  obtain ⟨_, failed, _⟩ := fast_track_reports (fun _ _ => false) sampleArgs sampleDeployed
    (sampleShell fun _ _ => .error "permission denied") samplePreamble [] quiet rfl rfl rfl
  rw [valid, if_pos rfl] at summary
  refine ⟨⟨summary, ended.mpr ⟨valid, _, rfl, rfl⟩⟩, fun given => ?_⟩
  obtain ⟨_, _, _, written⟩ := failed.mp given
  cases written

end FastTrack

end OpenZk
