import CotServer.Verify.SignedMessage
import CotServer.Verify.Creation
import CotServer.Verify.Recharge.Asset
import CotServer.Verify.Recharge.Runs
import CotServer.Verify.Redemption.Runs
import CotServer.Verify.Redis.Account
import CotServer.Verify.Config.AssetType
import CotServer.Verify.Config.Guard
import CotServer.Verify.Config.Deposits
import CotServer.Verify.Config.Startup
import CotServer.Verify.Recharge.Amount
import CotServer.Verify.Redemption.Fees
import CotServer.Verify.Ticks
import CotServer.Verify.Callbacks
import CotServer.Verify.Retry
import CotServer.Verify.Budget
import CotServer.Verify.OneConfig
import CotServer.Verify.Config.Keys
import CotServer.Verify.Config.Restart
import CotServer.Verify.Recharge.Airdrop
import CotServer.Verify.Awake
import CotServer.Verify.Recharge.ContractPool
import CotServer.Verify.Confirmed
import CotServer.Verify.Failed
import CotServer.Verify.Admin.Runs
import CotServer.Verify.App
import CotServer.Verify.Terms
import CotServer.Verify.Server.Runs
