import SignedHttp.Exchange
import SignedHttp.Gateway
import SignedHttp.Proofs.Octets
import SignedHttp.Proofs.Text
import SignedHttp.Proofs.Percent
import SignedHttp.Proofs.Current.Header
import SignedHttp.Proofs.Checks
import SignedHttp.Proofs.Current.SignedText
import SignedHttp.Proofs.Registry
import SignedHttp.Proofs.Signing
import SignedHttp.Proofs.Timestamp
import SignedHttp.Proofs.Verification
import SignedHttp.Proofs.Current.Agreement
import SignedHttp.Proofs.Binary64
import SignedHttp.Proofs.Verdict
import SignedHttp.Proofs.Precedence
import SignedHttp.Proofs.Current.Reply
import SignedHttp.Proofs.Current.Created
import SignedHttp.Proofs.Current.Content
import SignedHttp.Proofs.HttpDate
import SignedHttp.Proofs.Legacy.Header
import SignedHttp.Proofs.Legacy.Agreement
import SignedHttp.Proofs.Carried
import SignedHttp.Proofs.Gateway
import SignedHttp.Proofs.Secrecy
import SignedHttp.Proofs.Unmatched
import SignedHttp.Proofs.Host
import SignedHttp.Proofs.Revocation
import SignedHttp.Proofs.Query.Normal
import SignedHttp.Proofs.Utf8
import SignedHttp.Proofs.Query.Form
import SignedHttp.Proofs.Query.Octets
import SignedHttp.Proofs.Required
import SignedHttp.Proofs.Current.Parameters
import SignedHttp.Proofs.Current.Appended
import SignedHttp.Proofs.Current.WrittenForm
import SignedHttp.Proofs.Legacy.SignedText
import SignedHttp.Proofs.Identification
import SignedHttp.Proofs.Attached
import SignedHttp.Proofs.Resigned
import SignedHttp.Proofs.Current.ResponseText
import SignedHttp.Proofs.TimeWindow
import SignedHttp.Proofs.Headers.Multimap
import SignedHttp.Proofs.Headers.Replaced
import SignedHttp.Proofs.Gateway.Legacy
import SignedHttp.Raw.Error
import SignedHttp.Raw.Message
import SignedHttp.Raw.Scheme
import SignedHttp.Raw.Signing
import SignedHttp.Proofs.Raw.Points
import SignedHttp.Proofs.Raw.Query
import SignedHttp.Proofs.Raw.SignedText
import SignedHttp.Proofs.Raw.Strings
import SignedHttp.Proofs.Raw.Response
import SignedHttp.Proofs.Raw.Signable
