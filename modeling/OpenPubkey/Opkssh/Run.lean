import OpenPubkey.Opkssh.Version
import OpenPubkey.Ssh.KeyFiles

set_option autoImplicit false

namespace OpenPubkey.Opkssh

structure Environment where
  parseLoginFlags : List String → Except Nat (Bool × String)
  openLogFile : String → Except String Unit
  login : Bool → Except String Unit
  sshdVersion : Except String String
  authorizedKeysCommand : String → String → String → Except String String
  add : String → String → Except String String

structure RunResult where
  exitCode : Nat
  stdout : List String
  log : List String
deriving DecidableEq, Repr

/-- `checkOpenSSHVersion`'s lines by where they go: those of `fmt.Println` to
standard output, that of `log.Println` to the log. -/
def checkOpenSSHVersionLines (output : Except String String) : List String × List String :=
  match output with
  | .error err => (["Error executing ssh -V: " ++ err], [])
  | .ok output =>
    match isOpenSSHVersion8Dot1OrGreater output with
    | .ok true => ([], [])
    | .ok false => ([], ["OpenPubkey SSH requires OpenSSH v. 8.1 or greater"])
    | .error _ => (["Invalid OpenSSH version"], ["OpenPubkey SSH requires OpenSSH v. 8.1 or greater"])

theorem checkOpenSSHVersion_eq_lines (output : Except String String) :
    checkOpenSSHVersion output = (checkOpenSSHVersionLines output).1 ++ (checkOpenSSHVersionLines output).2 := by
  rcases output with err | output
  · rfl
  · simp only [checkOpenSSHVersion, checkOpenSSHVersionLines]
    rcases isOpenSSHVersion8Dot1OrGreater output with _ | (_ | _) <;> rfl

theorem checkOpenSSHVersionLines_stdout_eq_nil (output : Except String String) :
    (checkOpenSSHVersionLines output).1 = [] ↔
      ∃ sshdOutput supported, output = .ok sshdOutput ∧ isOpenSSHVersion8Dot1OrGreater sshdOutput = .ok supported := by
  rcases output with err | sshdOutput
  · simp [checkOpenSSHVersionLines]
  · simp only [checkOpenSSHVersionLines, Except.ok.injEq, exists_and_left, exists_eq_left']
    rcases isOpenSSHVersion8Dot1OrGreater sshdOutput with _ | (_ | _) <;> simp

section

variable (env : Environment)

def loginCase (flags : List String) : RunResult :=
  match env.parseLoginFlags flags with
  | .error status => ⟨status, [], []⟩
  | .ok (autoRefresh, logFilePath) =>
    let toStdout := logFilePath != "" && (env.openLogFile (Ssh.joinPath logFilePath "openpubkey.log")).isOk
    match env.login autoRefresh with
    | .ok () => ⟨0, [], []⟩
    | .error err =>
      let line := "ERROR logging in: " ++ err
      ⟨1, if toStdout then [line] else [], [line]⟩

def verifyCase (args : List String) : RunResult :=
  let opened := match env.openLogFile "/var/log/openpubkey.log" with
    | .error err => ["ERROR opening log file: " ++ err]
    | .ok () => []
  let version := checkOpenSSHVersionLines env.sshdVersion
  let log := version.2 ++ [String.intercalate " " args]
  match args with
  | [_, _, userArg, certB64Arg, typArg] =>
    match env.authorizedKeysCommand userArg typArg certB64Arg with
    | .error err => ⟨1, opened ++ version.1, log ++ ["failed to verify: " ++ err]⟩
    | .ok authKey => ⟨0, opened ++ version.1 ++ [authKey], log⟩
  | _ =>
    ⟨1, opened ++ version.1, log ++
      ["Invalid number of arguments for verify, expected: `<User (TOKEN u)> <Key type (TOKEN t)> <Cert (TOKEN k)>`"]⟩

def addCase (args : List String) : RunResult :=
  match args with
  | [_, _, inputEmail, inputPrincipal] =>
    match env.add inputEmail inputPrincipal with
    | .error err => ⟨1, [], ["failed to add to policy: " ++ err]⟩
    | .ok policyFilePath => ⟨0, [], ["Successfully added new policy to " ++ policyFilePath]⟩
  | _ => ⟨1, ["Invalid number of arguments for verify, expected: `<Email (TOKEN e)> <Principal (TOKEN p)>`"], []⟩

def run (args : List String) : RunResult :=
  match args with
  | _ :: command :: rest =>
    if command = "login" then loginCase env rest
    else if command = "verify" then verifyCase env args
    else if command = "add" then addCase env args
    else ⟨1, [], ["ERROR! Unrecognized command: " ++ command]⟩
  | _ => ⟨1, ["Example SSH key generator using OpenPubkey: command choices are: login, verify, and add"], []⟩

def verifyDiagnostics : List String :=
  (match env.openLogFile "/var/log/openpubkey.log" with
    | .error err => ["ERROR opening log file: " ++ err]
    | .ok () => []) ++ (checkOpenSSHVersionLines env.sshdVersion).1

theorem run_verify_cases (program : String) (rest : List String) :
    (∃ userArg certB64Arg typArg authKey, rest = [userArg, certB64Arg, typArg] ∧
      env.authorizedKeysCommand userArg typArg certB64Arg = .ok authKey ∧
      (run env (program :: "verify" :: rest)).exitCode = 0 ∧
      (run env (program :: "verify" :: rest)).stdout = verifyDiagnostics env ++ [authKey]) ∨
    ((∀ userArg certB64Arg typArg authKey, rest = [userArg, certB64Arg, typArg] →
      env.authorizedKeysCommand userArg typArg certB64Arg ≠ .ok authKey) ∧
      (run env (program :: "verify" :: rest)).exitCode = 1 ∧
      (run env (program :: "verify" :: rest)).stdout = verifyDiagnostics env) := by
  simp only [run, show "verify" ≠ "login" by decide, if_false, if_true, verifyCase, verifyDiagnostics]
  match rest with
  | [userArg, certB64Arg, typArg] =>
    cases key : env.authorizedKeysCommand userArg typArg certB64Arg with
    | error err => exact .inr ⟨fun _ _ _ _ same => by cases same; simp [key], by simp [key], by simp [key]⟩
    | ok authKey => exact .inl ⟨userArg, certB64Arg, typArg, authKey, rfl, key, by simp [key], by simp [key]⟩
  | [] | [_] | [_, _] | _ :: _ :: _ :: _ :: _ => exact .inr ⟨by simp, rfl, rfl⟩

theorem verifyDiagnostics_eq_nil :
    verifyDiagnostics env = [] ↔
      env.openLogFile "/var/log/openpubkey.log" = .ok () ∧
      ∃ sshdOutput supported, env.sshdVersion = .ok sshdOutput ∧
        isOpenSSHVersion8Dot1OrGreater sshdOutput = .ok supported := by
  rw [verifyDiagnostics, List.append_eq_nil, checkOpenSSHVersionLines_stdout_eq_nil]
  cases env.openLogFile "/var/log/openpubkey.log" <;> simp

theorem mem_verifyDiagnostics {line : String} (member : line ∈ verifyDiagnostics env) :
    (∃ err, line = "ERROR opening log file: " ++ err) ∨ (∃ err, line = "Error executing ssh -V: " ++ err) ∨
      line = "Invalid OpenSSH version" := by
  rw [verifyDiagnostics, List.mem_append] at member
  rcases member with opened | version
  · cases log : env.openLogFile "/var/log/openpubkey.log" <;> simp [log] at opened
    exact .inl ⟨_, opened⟩
  · cases sshd : env.sshdVersion with
    | error err => simp [checkOpenSSHVersionLines, sshd] at version; exact .inr (.inl ⟨err, version⟩)
    | ok sshdOutput =>
      simp only [checkOpenSSHVersionLines, sshd] at version
      split at version <;> simp at version
      exact .inr (.inr version)

theorem run_verify_prints_only_key_iff (program : String) (rest : List String) (authKey : String) :
    ((∃ userArg certB64Arg typArg, rest = [userArg, certB64Arg, typArg] ∧
        env.authorizedKeysCommand userArg typArg certB64Arg = .ok authKey) →
      (run env (program :: "verify" :: rest)).exitCode = 0 ∧
      (run env (program :: "verify" :: rest)).stdout = verifyDiagnostics env ++ [authKey]) ∧
    ((run env (program :: "verify" :: rest)).exitCode = 0 ∧
      (run env (program :: "verify" :: rest)).stdout = [authKey] ↔
      (∃ userArg certB64Arg typArg, rest = [userArg, certB64Arg, typArg] ∧
        env.authorizedKeysCommand userArg typArg certB64Arg = .ok authKey) ∧
      env.openLogFile "/var/log/openpubkey.log" = .ok () ∧
      ∃ sshdOutput supported, env.sshdVersion = .ok sshdOutput ∧
        isOpenSSHVersion8Dot1OrGreater sshdOutput = .ok supported) := by
  rw [← verifyDiagnostics_eq_nil]
  rcases run_verify_cases env program rest with ⟨userArg, certB64Arg, typArg, key, rfl, found, code, out⟩ |
      ⟨rejected, code, out⟩
  · have keyed : (∃ u c t, [userArg, certB64Arg, typArg] = [u, c, t] ∧
        env.authorizedKeysCommand u t c = .ok authKey) ↔ key = authKey :=
      ⟨fun ⟨_, _, _, same, found'⟩ => by cases same; exact Except.ok.inj (found.symm.trans found'),
        fun same => ⟨_, _, _, rfl, same ▸ found⟩⟩
    rw [keyed, code, out]
    refine ⟨fun same => ⟨rfl, by rw [same]⟩, fun ⟨_, same⟩ => ?_, fun ⟨same, empty⟩ => ⟨rfl, by rw [empty, same]; rfl⟩⟩
    obtain ⟨empty, rfl⟩ : verifyDiagnostics env = [] ∧ key = authKey := by
      simpa [List.append_eq_cons_iff] using same
    exact ⟨rfl, empty⟩
  · have unverified : ¬∃ u c t, rest = [u, c, t] ∧ env.authorizedKeysCommand u t c = .ok authKey :=
      fun ⟨_, _, _, same, found⟩ => rejected _ _ _ _ same found
    rw [code]
    exact ⟨fun verified => absurd verified unverified, by simp [unverified]⟩

theorem run_verify_failure_prints_no_key (program : String) (rest : List String)
    (failed : (run env (program :: "verify" :: rest)).exitCode ≠ 0) :
    ∀ line ∈ (run env (program :: "verify" :: rest)).stdout,
      (∃ err, line = "ERROR opening log file: " ++ err) ∨ (∃ err, line = "Error executing ssh -V: " ++ err) ∨
        line = "Invalid OpenSSH version" := by
  rcases run_verify_cases env program rest with ⟨-, -, -, -, -, -, code, -⟩ | ⟨-, -, out⟩
  · exact absurd code failed
  · rw [out]
    exact fun _ => mem_verifyDiagnostics env

end

def sshdHost : Environment where
  parseLoginFlags _ := .ok (false, "")
  openLogFile path := .error ("open " ++ path ++ ": permission denied")
  login _ := .ok ()
  sshdVersion := .ok "OpenSSH_9.6p1, OpenSSL 3.0.13 30 Jan 2024"
  authorizedKeysCommand userArg _ _ :=
    if userArg = "root" then .error "no policy for root" else .ok "cert-authority ecdsa-sha2-nistp256 AAAAE2Vj"
  add _ _ := .ok "/etc/opk/policy"

theorem sshdHost_root_prints_no_key :
    (run sshdHost ["opkssh", "verify", "root", "AAAAHGVj", "ecdsa-sha2-nistp256-cert-v01@openssh.com"]).exitCode ≠ 0 ∧
    (run sshdHost ["opkssh", "verify", "root", "AAAAHGVj", "ecdsa-sha2-nistp256-cert-v01@openssh.com"]).stdout =
      ["ERROR opening log file: open /var/log/openpubkey.log: permission denied"] ∧
    ∀ line ∈ (run sshdHost ["opkssh", "verify", "root", "AAAAHGVj", "ecdsa-sha2-nistp256-cert-v01@openssh.com"]).stdout,
      (∃ err, line = "ERROR opening log file: " ++ err) ∨ (∃ err, line = "Error executing ssh -V: " ++ err) ∨
        line = "Invalid OpenSSH version" :=
  have failed : (run sshdHost ["opkssh", "verify", "root", "AAAAHGVj",
      "ecdsa-sha2-nistp256-cert-v01@openssh.com"]).exitCode ≠ 0 := by decide
  ⟨failed, by decide, run_verify_failure_prints_no_key sshdHost "opkssh" _ failed⟩

end OpenPubkey.Opkssh
