import Renko.Main
import Renko.Proofs.Backtest.Foresight
import Renko.Proofs.Backtest.Quotation
import Renko.Proofs.Backtest.Relabelling
import Renko.Proofs.Backtest.Slippage
import Renko.Proofs.Book.Refusals
import Renko.Proofs.Calendar.Text
import Renko.Proofs.Chart.Extremes
import Renko.Proofs.Chart.Outline
import Renko.Proofs.Chart.Refusals
import Renko.Proofs.Chart.Scheduled
import Renko.Proofs.Csv.Arrangement
import Renko.Proofs.Desk.Reports
import Renko.Proofs.Program
import Renko.Proofs.Report.Refusal
