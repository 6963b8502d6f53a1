import SellProbe.Bytecode.HexText

/-!
# Errors of a session

Everything that can go wrong between the probe and its sandbox, and how it is worded.
-/

namespace SellProbe

/-- Why a request, or the probe's use of its answer, has failed. -/
inductive ProbeError
  /-- The node program did not start. -/
  | spawn (detail : String)
  /-- No connection to the node. -/
  | connection (detail : String)
  /-- No sandbox could be set up; this says nothing about the token. -/
  | unavailable (detail : String)
  | rpc (detail : String)
  | sending (detail : String)
  | awaiting (detail : String)
  /-- The transaction was mined as failed. -/
  | reverted (transaction : Hash)
  | trace (detail : String)
  | abi (detail : String)
  | scan (e : Bytecode.ScanError)
  | liquidity (detail : String)
  | badInput (detail : String)
  /-- The session had already ended. -/
  | closed
deriving DecidableEq

namespace ProbeError

def message : ProbeError → String
  | spawn detail => "falha ao iniciar anvil: " ++ detail
  | connection detail => "falha ao criar provider do anvil: " ++ detail
  | unavailable detail => "ambiente de simulação indisponível: " ++ detail
  | rpc detail => "falha de rpc: " ++ detail
  | sending detail => "falha ao enviar transação: " ++ detail
  | awaiting detail => "falha ao aguardar transação: " ++ detail
  | reverted transaction => "transação revertida: " ++ transaction.toHex
  | trace detail => "falha no trace: " ++ detail
  | abi detail => "erro de abi: " ++ detail
  | scan e => "falha na análise de bytecode: " ++ e.message
  | liquidity detail => "falha no bootstrap de liquidez: " ++ detail
  | badInput detail => "entrada inválida: " ++ detail
  | closed => "sessao ja encerrada"

end ProbeError

inductive PanicPayload
  | text (s : String)
  | other

def PanicPayload.message : PanicPayload → String
  | .text s => s
  | .other => "pânico sem mensagem"

end SellProbe
