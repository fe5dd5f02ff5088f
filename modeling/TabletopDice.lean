import TabletopDice.Data.Record
import TabletopDice.Proofs.Notation.DescriptionText
import TabletopDice.Proofs.Notation.DieSearch
import TabletopDice.Proofs.Notation.JoinedText
import TabletopDice.Proofs.Notation.LetterCase
import TabletopDice.Proofs.Number.NearestDouble
import TabletopDice.Proofs.Roll.BlockOrder
import TabletopDice.Proofs.Roll.BreakdownRecord
import TabletopDice.Proofs.Roll.Complement
import TabletopDice.Proofs.Roll.CriticalDraws
import TabletopDice.Proofs.Roll.ExplosionCap
import TabletopDice.Proofs.Roll.JointRoll
import TabletopDice.Proofs.Roll.RaisedFaces
import TabletopDice.Proofs.Roll.ReadingOptions
import TabletopDice.Proofs.Roll.RollEnd
import TabletopDice.Proofs.Roll.SelectionRule
import TabletopDice.Proofs.Service.Budget
import TabletopDice.Proofs.Service.IterationRange
import TabletopDice.Proofs.Service.Verdicts
import TabletopDice.Proofs.Session.SparedSource
import TabletopDice.Proofs.Statistics.TotalRange
import TabletopDice.Service.Server
import TabletopDice.Session
import TabletopDice.Settings.Environment
