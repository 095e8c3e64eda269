import OpenIotRsp.Library.Ber.Tlv

/-!
# Errors

The error values of the Go packages.  A sentinel that callers test with
`errors.Is` is a constructor of its own; every other error is its message.
-/

namespace OpenIotRsp

open Octets Ber

inductive Error where
  /-- `storage.ErrNotFound` -/
  | notFound
  /-- `errUnexpectedTag`, with the tag seen (absent for a missing TLV) and the tag wanted -/
  | unexpectedTag (got : Option Tag) (want : Tag)
  /-- `errUnexpectedTag` for a CHOICE without an alternative of that tag -/
  | unknownTag (choice : String) (got : Tag)
  /-- `euiccpkg.ErrSignatureInvalid` -/
  | signatureInvalid
  /-- `euiccpkg.ErrTransactionMismatch` -/
  | transactionMismatch (detail : String)
  /-- `euiccpkg.ErrCounterMismatch` -/
  | counterMismatch (got want : Int)
  /-- `euiccpkg.ErrResultNotFound` -/
  | resultNotFound (operation : String)
  /-- any other error, by the fixed part of its message -/
  | message (text : String)
deriving DecidableEq

end OpenIotRsp
