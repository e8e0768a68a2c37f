import OpenPubkey.Runtime
import OpenPubkey.Json
import OpenPubkey.PKToken
import OpenPubkey.Verifier.ProviderVerifier
import OpenPubkey.Client.VerifyPKToken
import OpenPubkey.Verifier.Guarantees
import OpenPubkey.Verifier.Panics
import OpenPubkey.Cosigner.AuthCosigner
import OpenPubkey.Cosigner.AuthID
import OpenPubkey.Cosigner.AuthState
import OpenPubkey.Cosigner.Sessions
import OpenPubkey.Cosigner.Safety
import OpenPubkey.Cosigner.Runs
import OpenPubkey.Parties.GithubClient
import OpenPubkey.Opkssh.Version
import OpenPubkey.Cert.CA
import OpenPubkey.Ssh.KeyFiles
import OpenPubkey.Opkssh.Run
