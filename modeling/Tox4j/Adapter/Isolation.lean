import Tox4j.Adapter.Log
import Tox4j.Misc.Restrict

/-!
# Some of the transfers of a `new_Tox`

A session is compared with the one in which only some of the transfers exist: those of one friend,
or a single one. `about` tells which calls concern them.
-/

namespace Tox4j.Adapter

open Tox4j.Misc

/-- The transfers whose (friend number, file number) satisfies `K`. -/
def NewTox.only (K : UInt32 × UInt32 → Bool) (tox : NewTox) : NewTox :=
  { tox with transfers := restrict K tox.transfers }

/-- The transfer a callback is about. -/
def LegacyCallback.key : LegacyCallback → UInt32 × UInt32
  | .fileSendRequest friendnumber filenumber _ _ _ | .fileData friendnumber filenumber _ =>
      (friendnumber, filenumber.toUInt32 ||| 0x100)
  | .fileControl friendnumber receiveSend filenumber _ =>
      (friendnumber, FileTransfer.newFileNumber (receiveSend != 0) filenumber)

/-- The calls about these transfers. An iteration is about all, and the number of a new one comes
    from the legacy core. -/
def aboutCall (K : UInt32 × UInt32 → Bool) : Legacy × Call → Bool
  | (lg, .fileSend friendNumber _ _ _ _) => K (friendNumber, (lg.newFileSender friendNumber).toUInt32)
  | (_, .fileSendChunk friendNumber fileNumber _) | (_, .fileControl friendNumber fileNumber _) =>
      K (friendNumber, fileNumber)
  | (_, .callback cb) => K cb.key
  | (_, .afterToxDo) => true

/-- The entries of a log about these transfers, or about the connection. -/
def aboutEntry (K : UInt32 × UInt32 → Bool) : Call × Action → Bool
  | (.fileSend friendNumber _ _ _ _, .newSender _ filenumber _ _) =>
      K (friendNumber, filenumber.toUInt32)
  | (.fileSend _ _ _ _ _, _) => false
  | (.fileSendChunk friendNumber fileNumber _, _) | (.fileControl friendNumber fileNumber _, _) =>
      K (friendNumber, fileNumber)
  | (.callback cb, _) => K cb.key
  | (.afterToxDo, .event (.fileRequestChunk friendNumber fileNumber _ _)) =>
      K (friendNumber, fileNumber)
  | (.afterToxDo, _) => true

def Logged.only (K : UInt32 × UInt32 → Bool) (s : Logged) : Logged where
  tox := s.tox.only K
  log := s.log.filter (aboutEntry K)

end Tox4j.Adapter
