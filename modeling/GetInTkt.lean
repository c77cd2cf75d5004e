import GetInTkt.Basic
import GetInTkt.Reply
import GetInTkt.Padata
import GetInTkt.PadataOrder
import GetInTkt.InitCreds
import GetInTkt.AllInOne
import GetInTkt.AllInOneSpec
import GetInTkt.Enctypes
import GetInTkt.Driver
import GetInTkt.StepSpec
import GetInTkt.StepErrors
import GetInTkt.Success
import GetInTkt.LoopBound
import GetInTkt.InTktRuns
import GetInTkt.StepRuns
